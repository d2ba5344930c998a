import MessageSchema.Main
import MessageSchema.Proofs.Acceptance
import MessageSchema.Proofs.LexicalScoping
import MessageSchema.Proofs.Outline
import MessageSchema.Proofs.Scoping
import MessageSchema.Proofs.Edits
import MessageSchema.Proofs.AbsoluteReferences
import MessageSchema.Proofs.DeclarationOrder
import MessageSchema.Proofs.References
import MessageSchema.Proofs.LoadedDefaults
import MessageSchema.Proofs.DefaultEdits
import MessageSchema.Proofs.MessageLookup
import MessageSchema.Proofs.DocumentTexts
import MessageSchema.Proofs.Runs
import MessageSchema.Proofs.Slots
import MessageSchema.Proofs.FieldFaults
import MessageSchema.Proofs.FirstFault
import MessageSchema.Proofs.InternalErrors
import MessageSchema.Proofs.LoadEvents
import MessageSchema.Proofs.EditEffects
import MessageSchema.Proofs.EditOrder
import MessageSchema.Proofs.FieldLookup
import MessageSchema.Proofs.IntegerDefaults
import MessageSchema.Proofs.Json.Outcomes
import MessageSchema.Proofs.Json.Printing
import MessageSchema.Proofs.Json.Tuples
import MessageSchema.Proofs.Json.Numbers
import MessageSchema.Proofs.FieldChanges
import MessageSchema.Proofs.OpenDefaults
import MessageSchema.Proofs.NumberDefaults
import MessageSchema.Proofs.Chunks
import MessageSchema.Proofs.Identifiers
import MessageSchema.Proofs.DisplayedDefaults
import MessageSchema.Proofs.ReportTexts
import MessageSchema.Proofs.Reports
import MessageSchema.Proofs.Keywords
import MessageSchema.Proofs.Inspections
