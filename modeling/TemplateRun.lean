import TemplateRun.Invocation.Sharing
import TemplateRun.Main
import TemplateRun.Script.Performance
import TemplateRun.Proofs.Writes
import TemplateRun.Proofs.Invocation.Rendering
import TemplateRun.Proofs.Invocation.Equality
import TemplateRun.Proofs.Invocation.Record
import TemplateRun.Proofs.Pipeline.Course
import TemplateRun.Proofs.Pipeline.Ledger
import TemplateRun.Proofs.Pipeline.Transition
import TemplateRun.Proofs.Pipeline.Closing
import TemplateRun.Proofs.Pipeline.Aftermath
import TemplateRun.Proofs.Pipeline.Queue
import TemplateRun.Proofs.Console.Diagnostic
import TemplateRun.Proofs.Preparation
import TemplateRun.Proofs.Document.Legible
import TemplateRun.Proofs.Document.Parts
import TemplateRun.Proofs.Document.Name
import TemplateRun.Proofs.Document.Selection
import TemplateRun.Proofs.Registry
import TemplateRun.Proofs.Command.Delivery
import TemplateRun.Proofs.Command.Resolution
import TemplateRun.Proofs.Command.Appearance
