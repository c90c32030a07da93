import Schemata.Argument.Checking
import Schemata.Argument.Expansion
import Schemata.Config
import Schemata.Config.Keys
import Schemata.Config.Outline
import Schemata.Config.Rendering
import Schemata.Decimal.Scaled
import Schemata.Decimal.Shortest
import Schemata.Directive
import Schemata.Directive.Builtin
import Schemata.Directive.Location
import Schemata.Directive.Set
import Schemata.Entries
import Schemata.Field.Checking
import Schemata.Field.Declaration
import Schemata.Field.Forcing
import Schemata.Field.Map
import Schemata.Field.Spec
import Schemata.Handle
import Schemata.Host
import Schemata.Host.Script
import Schemata.Json
import Schemata.Json.Parser
import Schemata.Name
import Schemata.Proofs.Accounting
import Schemata.Proofs.Attribution
import Schemata.Proofs.Behaviour
import Schemata.Proofs.Brevity
import Schemata.Proofs.BuilderCourse
import Schemata.Proofs.Building
import Schemata.Proofs.Checking
import Schemata.Proofs.Conversion
import Schemata.Proofs.Declaring
import Schemata.Proofs.Deferral
import Schemata.Proofs.DirectiveCourse
import Schemata.Proofs.Draft
import Schemata.Proofs.Eagerness
import Schemata.Proofs.Effects
import Schemata.Proofs.Elision
import Schemata.Proofs.Erasure
import Schemata.Proofs.Expansion
import Schemata.Proofs.Faults
import Schemata.Proofs.FieldAccess
import Schemata.Proofs.FieldCourse
import Schemata.Proofs.FieldNames
import Schemata.Proofs.Frozen
import Schemata.Proofs.Grammar
import Schemata.Proofs.Growth
import Schemata.Proofs.Identity
import Schemata.Proofs.Lengths
import Schemata.Proofs.Locations
import Schemata.Proofs.Places
import Schemata.Proofs.PlainData
import Schemata.Proofs.Reading
import Schemata.Proofs.Redeclaring
import Schemata.Proofs.References
import Schemata.Proofs.Refusals
import Schemata.Proofs.Registration
import Schemata.Proofs.RegistryCourse
import Schemata.Proofs.Remembering
import Schemata.Proofs.Rephrasing
import Schemata.Proofs.Report
import Schemata.Proofs.Resolving
import Schemata.Proofs.Revision
import Schemata.Proofs.Settling
import Schemata.Proofs.Slots
import Schemata.Proofs.Stability
import Schemata.Proofs.Steps
import Schemata.Proofs.Untagged
import Schemata.Proofs.Validation
import Schemata.Proofs.WellFormed
import Schemata.Registry
import Schemata.Registry.Validation
import Schemata.Schema
import Schemata.Store
import Schemata.Text.Outline
import Schemata.Text.Quoted
import Schemata.Text.Unprintable
import Schemata.TypeDef
import Schemata.TypeKind
import Schemata.TypeRef
import Schemata.TypeRef.Resolve
import Schemata.Value
import Schemata.Value.Json
import Schemata.Violation
