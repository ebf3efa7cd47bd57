import LearnerPersona.Http.Service
import LearnerPersona.Http.Settings
import LearnerPersona.Main
import LearnerPersona.Store.Operation
import LearnerPersona.Proofs.Prompt.Passages
import LearnerPersona.Proofs.Store.Cache
import LearnerPersona.Proofs.Prompt.Outline
import LearnerPersona.Proofs.Prompt.Headings
import LearnerPersona.Proofs.Prompt.Boundaries
import LearnerPersona.Proofs.Prompt.Knowledge
import LearnerPersona.Proofs.Json.Document
import LearnerPersona.Proofs.Wire.Layout
import LearnerPersona.Proofs.CommandLine.Output
import LearnerPersona.Proofs.Conversation.Acceptance
import LearnerPersona.Proofs.Store.LastWriter
import LearnerPersona.Proofs.Http.Effect
import LearnerPersona.Proofs.Http.HeldProfile
import LearnerPersona.Proofs.Http.Dropping
import LearnerPersona.Proofs.Http.Body
import LearnerPersona.Proofs.Wire.Members
import LearnerPersona.Proofs.Wire.Merging
import LearnerPersona.Proofs.File.Formats
import LearnerPersona.Proofs.Text.Paragraphs
import LearnerPersona.Proofs.Prompt.Tensions
import LearnerPersona.Proofs.Conversation.Trimming
import LearnerPersona.Proofs.Dimension.Lookup
import LearnerPersona.Proofs.Http.Naming
import LearnerPersona.Proofs.File.Extension
import LearnerPersona.Proofs.Http.Address
