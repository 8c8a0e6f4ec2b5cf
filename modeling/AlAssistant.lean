import AlAssistant.Proofs.Al.DiagnosedName
import AlAssistant.Proofs.Al.Jumps
import AlAssistant.Proofs.Al.Placement
import AlAssistant.Proofs.Al.SharedSection
import AlAssistant.Proofs.Al.TypeNotation
import AlAssistant.Proofs.Dialogue.EntryPoints
import AlAssistant.Proofs.Dialogue.Fallback
import AlAssistant.Proofs.Dialogue.WholeEdit
import AlAssistant.Proofs.Phrase.CaretWord
import AlAssistant.Proofs.Phrase.HoveredSource
import AlAssistant.Proofs.Portal.WrittenTable
import AlAssistant.Proofs.Server.Documents
import AlAssistant.Proofs.Settings.Written
import AlAssistant.Proofs.Text.Boundary
import AlAssistant.Proofs.Xliff.KeptEndings
import AlAssistant.Proofs.Xliff.LocaleName
import AlAssistant.Proofs.Xliff.SecondPass
import AlAssistant.Proofs.Xliff.WrittenDocument
