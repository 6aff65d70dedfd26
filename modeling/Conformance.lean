import Conformance.Binary64
import Conformance.Binary64.Shortest
import Conformance.CommandLine.Arguments
import Conformance.CommandLine.Directory
import Conformance.CommandLine.Run
import Conformance.Compiler.Basic
import Conformance.Compiler.Constraint
import Conformance.Definitions
import Conformance.Format.Basic
import Conformance.Format.Email
import Conformance.Format.Timestamp
import Conformance.Format.Uri
import Conformance.Format.Uri.Address
import Conformance.Format.Uri.Domain
import Conformance.Format.Uri.Punycode
import Conformance.Format.Uuid
import Conformance.Issue
import Conformance.Json.Basic
import Conformance.Json.Identity
import Conformance.Json.Number
import Conformance.Json.Numeral
import Conformance.Json.Reader
import Conformance.Json.Transcript
import Conformance.Json.Writer
import Conformance.Keyword
import Conformance.Main
import Conformance.Options
import Conformance.Pattern.Automaton
import Conformance.Pattern.Basic
import Conformance.Pattern.Expression
import Conformance.Pattern.Grammar
import Conformance.Pattern.Named
import Conformance.Pointer
import Conformance.Rules
import Conformance.Session
import Conformance.Text.Digit
import Conformance.Text.Quoted
import Conformance.Text.Split
import Conformance.Unicode.CaseFolding
import Conformance.Unicode.Category
import Conformance.Unicode.CodeSet
import Conformance.Unicode.Decomposition
import Conformance.Unicode.Direction
import Conformance.Unicode.DomainMapping
import Conformance.Unicode.Joining
import Conformance.Unicode.Normalization
import Conformance.Unicode.Property
import Conformance.Unicode.Script
import Conformance.Unicode.Stretches
import Conformance.Validation
import Conformance.Validator
import Conformance.Visited
import Conformance.Proofs.Compiler.Unfolding
import Conformance.Proofs.Validator.Basic
import Conformance.Proofs.Compiler.Retelling
import Conformance.Proofs.Compiler.Lockstep
import Conformance.Proofs.Compiler.Sharing
import Conformance.Proofs.Compiler.Retold
import Conformance.Proofs.Compiler.Expansion
import Conformance.Proofs.Validation.Heads
import Conformance.Proofs.Validation.Unguarded
import Conformance.Proofs.Validation.Termination
import Conformance.Proofs.Validation.Explained
import Conformance.Proofs.Validation.Equations
import Conformance.Proofs.Compiler.Resolution
import Conformance.Proofs.Validation.Resolved
import Conformance.Proofs.Validation.Rules
import Conformance.Proofs.Validation.Acceptance
import Conformance.Proofs.Meaning.Basic
import Conformance.Proofs.Meaning.Compiled
import Conformance.Proofs.Meaning.Formats
import Conformance.Proofs.Meaning.Nullable
import Conformance.Proofs.Session.History
import Conformance.Proofs.Json.Parts
import Conformance.Proofs.Compiler.Kinds
import Conformance.Proofs.Compiler.Descent
import Conformance.Proofs.Compiler.Depth
import Conformance.Proofs.Compiler.Failure
import Conformance.Proofs.Compiler.Compilations
import Conformance.Proofs.Lists
import Conformance.Proofs.Json.Names
import Conformance.Proofs.Json.Declarations
import Conformance.Proofs.Json.Order
import Conformance.Proofs.Json.Pruning
import Conformance.Proofs.Compiler.Likeness
import Conformance.Proofs.Compiler.Counterparts
import Conformance.Proofs.Validation.Comparison
import Conformance.Proofs.Validation.Forms
import Conformance.Proofs.Validation.Properties
import Conformance.Proofs.Validation.Rejections
import Conformance.Proofs.Validation.WholeNumbers
import Conformance.Proofs.Validation.Involved
import Conformance.Proofs.Validation.DeclaredNames
import Conformance.Proofs.Validation.Wording
import Conformance.Proofs.Validation.Pruned
import Conformance.Proofs.Validation.Reordered
import Conformance.Proofs.Validation.Independence
import Conformance.Proofs.Validation.Declarations
import Conformance.Proofs.Validation.Reparsed
import Conformance.Proofs.CommandLine.Effects
import Conformance.Proofs.CommandLine.Lines
import Conformance.Proofs.Json.Pointers
import Conformance.Proofs.Json.Escapes
import Conformance.Proofs.Text.Lines
import Conformance.Proofs.Meaning.TypeLists
import Conformance.Proofs.Compiler.ErrorPaths
import Conformance.Proofs.Json.Magnitude
import Conformance.Proofs.Json.Divisibility
import Conformance.Proofs.Json.MachineIntegers
import Conformance.Proofs.Validation.Reported
import Conformance.Proofs.Validation.Alternatives
import Conformance.Proofs.Validation.Height
import Conformance.Proofs.Compiler.Cycles
import Conformance.Proofs.Compiler.Plain
import Conformance.Proofs.Compiler.Steps
import Conformance.Proofs.Validation.Deferral
import Conformance.Proofs.Json.Replaced
import Conformance.Proofs.Validation.Reports
import Conformance.Proofs.Validation.Locality
import Conformance.Proofs.Pattern.Matching
import Conformance.Proofs.Pattern.Construction
import Conformance.Proofs.Pattern.Search
import Conformance.Proofs.Pattern.Spelling
import Conformance.Proofs.Unicode.CodeSet
import Conformance.Proofs.Format.Grammar
import Conformance.Proofs.Format.Expressions
