import PathRoute.Http.Message
import PathRoute.Main
import PathRoute.Proofs.Config.Actions
import PathRoute.Proofs.Config.Building
import PathRoute.Proofs.Config.Negotiation
import PathRoute.Proofs.Route.Acceptance
import PathRoute.Proofs.Route.Answering
import PathRoute.Proofs.Route.Building
import PathRoute.Proofs.Route.Defaults
import PathRoute.Proofs.Route.Interference
import PathRoute.Proofs.Route.Joining
import PathRoute.Proofs.Route.Query
import PathRoute.Proofs.Route.Rearranging
import PathRoute.Proofs.Route.Rewriting
import PathRoute.Proofs.Route.Trying
import PathRoute.Proofs.Route.Tunnelling
import PathRoute.Proofs.Route.Verbs
import PathRoute.Proofs.Template.Faults
import PathRoute.Proofs.Template.Printing
import PathRoute.Proofs.Text.Locality
import PathRoute.Proofs.Regex.Locality
import PathRoute.Proofs.Regex.Brackets
import PathRoute.Proofs.Regex.Lexeme
import PathRoute.Proofs.Regex.Erasure
import PathRoute.Proofs.Regex.Similar
import PathRoute.Proofs.Regex.Parentheses
import PathRoute.Proofs.Regex.Groups
import PathRoute.Proofs.Pattern.Alignment
import PathRoute.Proofs.Pattern.Reporting
import PathRoute.Proofs.Pattern.Structure
import PathRoute.Proofs.Requirement.Plain
import PathRoute.Proofs.Requirement.Captureless
import PathRoute.Proofs.Requirement.InStep
import PathRoute.Proofs.Requirement.Classes
import PathRoute.Proofs.Actions
import PathRoute.Proofs.Formats
import PathRoute.Proofs.Pattern.Openings
