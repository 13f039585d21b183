import ContentModel.Main
import ContentModel.Proofs.Calendar.LongText
import ContentModel.Proofs.Calendar.NormalForm
import ContentModel.Proofs.Calendar.Plain
import ContentModel.Proofs.Issue.Path
import ContentModel.Proofs.Numeric.Grouped
import ContentModel.Proofs.Numeric.Mantissa
import ContentModel.Proofs.Pattern.Tokens
import ContentModel.Proofs.Rendering.Emptiness
import ContentModel.Proofs.Rendering.Fenced
import ContentModel.Proofs.Rendering.Instances
import ContentModel.Proofs.Rendering.Quotations
import ContentModel.Proofs.Rendering.SystemFields
import ContentModel.Proofs.RichText.Lists
import ContentModel.Proofs.RichText.Table
import ContentModel.Proofs.RichText.Whole
import ContentModel.Proofs.Schema.Nulls
import ContentModel.Proofs.Validation.Choices
import ContentModel.Proofs.Validation.Dates
import ContentModel.Proofs.Validation.Draft
import ContentModel.Proofs.Validation.KeyOrder
import ContentModel.Proofs.Validation.Locality
import ContentModel.Proofs.Validation.Modes
import ContentModel.Proofs.Validation.Nesting
import ContentModel.Proofs.Validation.Order
import ContentModel.Proofs.Validation.Places
import ContentModel.Proofs.Validation.Restriction
import ContentModel.Proofs.Validation.Variants
