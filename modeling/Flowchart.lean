import Flowchart.Main
import Flowchart.Proofs.Engine.Interleaving
import Flowchart.Proofs.Graph.Cycles
import Flowchart.Proofs.Session.Budget
import Flowchart.Proofs.Session.Halting
import Flowchart.Proofs.Session.Course
import Flowchart.Proofs.Session.Walk
import Flowchart.Proofs.Session.Updates
import Flowchart.Proofs.Engine.Rest
import Flowchart.Proofs.Step.Question
import Flowchart.Proofs.Session.Asking
import Flowchart.Proofs.Step.Answer
import Flowchart.Proofs.Session.Answer
import Flowchart.Proofs.Json.Exact
import Flowchart.Proofs.Json.Order
import Flowchart.Proofs.Source.RoundTrip
import Flowchart.Proofs.Graph.Payload
import Flowchart.Proofs.Workflow.Versions
import Flowchart.Proofs.Workflow.Writes
import Flowchart.Proofs.Workflow.Compiled
import Flowchart.Proofs.Engine.Lifecycle
import Flowchart.Proofs.Engine.Failing
import Flowchart.Proofs.Engine.Sources
import Flowchart.Proofs.Engine.Journal
import Flowchart.Proofs.CommandLine.Resumed
import Flowchart.Proofs.Graph.Shape
import Flowchart.Proofs.Session.Loaded
import Flowchart.Proofs.Session.Anonymous
import Flowchart.Proofs.CommandLine.Divided
import Flowchart.Proofs.Engine.Refused
import Flowchart.Proofs.Condition.Reading
import Flowchart.Proofs.Condition.Quoted
import Flowchart.Proofs.Session.Branching
import Flowchart.Proofs.Template.Groups
import Flowchart.Proofs.Session.Assigning
import Flowchart.Proofs.Graph.Drawn
import Flowchart.Proofs.Session.Accepting
import Flowchart.Proofs.Session.DeadEnd
import Flowchart.Proofs.Session.Prompt
import Flowchart.Proofs.Session.Calling
import Flowchart.Proofs.CommandLine.Messages
