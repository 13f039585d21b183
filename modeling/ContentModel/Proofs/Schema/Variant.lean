import ContentModel.Schema.Variant

/-!
# Which variant an item is

* `BlockMatch.find_cases` says where the search for a key ends;
* `BlockMatch.of_cases` says which variant is found for an item, `BlockMatch.of_eq_unknown_iff` for
  which items none is.
-/

namespace ContentModel.BlockMatch

variable {item : Json} {blocks : List BlockDefinition}

/-- A key leads to the first definition with it as uid, if there is one, whatever the payload. -/
theorem find_cases (key : String) (index : Nat) (blocks : List BlockDefinition) :
    (∃ (i : Nat) (block : BlockDefinition), blocks[i]? = some block ∧
        blocks.find? (fun block => block.uid = key) = some block ∧
        ∀ payload, find key payload index blocks = .variant key (index + i) block payload) ∨
      blocks.find? (fun block => block.uid = key) = none ∧
        ∀ payload, find key payload index blocks = .unknown (some key) payload := by
  induction blocks generalizing index with
  | nil => exact Or.inr ⟨rfl, fun _ => rfl⟩
  | cons first rest ih =>
    by_cases huid : first.uid = key
    · refine Or.inl ⟨0, first, rfl, by simp [huid], fun payload => ?_⟩
      rw [find, if_pos huid, Nat.add_zero]
    · have hfound : (first :: rest).find? (fun block => block.uid = key) =
          rest.find? fun block => block.uid = key := by
        simp [huid]
      rw [hfound]
      rcases ih (index + 1) with ⟨i, block, hget, hblock, hfind⟩ | ⟨hnone, hfind⟩
      · refine Or.inl ⟨i + 1, block, hget, hblock, fun payload => ?_⟩
        rw [find, if_neg huid, hfind, Nat.add_right_comm, Nat.add_assoc]
      · refine Or.inr ⟨hnone, fun payload => ?_⟩
        rw [find, if_neg huid, hfind]

/-- An item is of the first variant whose uid is its tag. Without a tag, or with one that is no
uid, it is of none. -/
theorem of_cases (item : Json) (blocks : List BlockDefinition) :
    (∃ (i : Nat) (block : BlockDefinition), blocks[i]? = some block ∧
        item.tag? = some block.uid ∧
        of item blocks = .variant block.uid i block ((item.get? block.uid).getD .null)) ∨
      (∀ block ∈ blocks, item.tag? ≠ some block.uid) ∧
        ∃ payload, of item blocks = .unknown item.tag? payload := by
  unfold of
  cases htag : item.tag? with
  | none => exact Or.inr ⟨nofun, item, rfl⟩
  | some key =>
    rcases find_cases key 0 blocks with ⟨i, block, hget, hblock, hfind⟩ | ⟨hnone, hfind⟩
    · obtain rfl : block.uid = key := by simpa using List.find?_some hblock
      exact Or.inl ⟨i, block, hget, rfl, by simpa using hfind _⟩
    · refine Or.inr ⟨fun block hblock heq => ?_, _, hfind _⟩
      exact List.find?_eq_none.1 hnone block hblock (by simpa using heq.symm)

/-- No variant is found for an item just when its tag, if it has one, is the uid of none. -/
theorem of_eq_unknown_iff : (∃ key payload, of item blocks = .unknown key payload) ↔
    ∀ block ∈ blocks, item.tag? ≠ some block.uid := by
  rcases of_cases item blocks with ⟨i, block, hget, htag, hof⟩ | ⟨hnone, payload, hof⟩
  · refine ⟨fun ⟨_, _, hunknown⟩ => ?_, fun hall => ?_⟩
    · rw [hof] at hunknown
      cases hunknown
    · exact absurd htag (hall block (List.mem_of_getElem? hget))
  · exact ⟨fun _ => hnone, fun _ => ⟨_, payload, hof⟩⟩

end ContentModel.BlockMatch
