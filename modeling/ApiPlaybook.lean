import ApiPlaybook.Bundle.Basic
import ApiPlaybook.Bundle.Decode
import ApiPlaybook.Bundle.Encode
import ApiPlaybook.Bundle.Selection
import ApiPlaybook.Bundle.Text
import ApiPlaybook.Bundle.Validation
import ApiPlaybook.CommandLine.Argument
import ApiPlaybook.CommandLine.Command
import ApiPlaybook.CommandLine.Execution
import ApiPlaybook.CommandLine.Result
import ApiPlaybook.CommandLine.Session
import ApiPlaybook.CommandLine.Target
import ApiPlaybook.Credential
import ApiPlaybook.Decode
import ApiPlaybook.Document
import ApiPlaybook.Environment
import ApiPlaybook.Exchange
import ApiPlaybook.Extraction
import ApiPlaybook.Json.Basic
import ApiPlaybook.Json.Draft
import ApiPlaybook.Json.Pointer
import ApiPlaybook.Json.Printer
import ApiPlaybook.Json.Reader
import ApiPlaybook.JsonPath.Basic
import ApiPlaybook.JsonPath.Reader
import ApiPlaybook.Main
import ApiPlaybook.NameMap
import ApiPlaybook.Number.Binary64
import ApiPlaybook.Number.Shortest
import ApiPlaybook.OpenApi.Operation
import ApiPlaybook.OpenApi.Reference
import ApiPlaybook.OpenApi.Security
import ApiPlaybook.OpenApi.Text
import ApiPlaybook.Preparation
import ApiPlaybook.Proofs.Run.Outcome
import ApiPlaybook.Proofs.Run.Rules
import ApiPlaybook.Regex.CharSet
import ApiPlaybook.Regex.Expr
import ApiPlaybook.Regex.Machine
import ApiPlaybook.Regex.Named
import ApiPlaybook.Regex.Pattern
import ApiPlaybook.Regex.Program
import ApiPlaybook.RequestDraft
import ApiPlaybook.ResponseCode
import ApiPlaybook.Run.Auth
import ApiPlaybook.Run.Course
import ApiPlaybook.Run.Event
import ApiPlaybook.Run.Line
import ApiPlaybook.Run.Playbook
import ApiPlaybook.Run.Report
import ApiPlaybook.Run.Stage
import ApiPlaybook.Run.Step
import ApiPlaybook.Scope
import ApiPlaybook.Template.Reference
import ApiPlaybook.Template.Substitution
import ApiPlaybook.Text.Base64
import ApiPlaybook.Text.Blank
import ApiPlaybook.Text.Quoted
import ApiPlaybook.Text.Utf8
import ApiPlaybook.Unicode.Category
import ApiPlaybook.Unicode.Direction
import ApiPlaybook.Unicode.DomainMapping
import ApiPlaybook.Unicode.Folding
import ApiPlaybook.Unicode.Normal
import ApiPlaybook.Unicode.Property
import ApiPlaybook.Unicode.Script
import ApiPlaybook.Unicode.Table
import ApiPlaybook.Unicode.UpperCase
import ApiPlaybook.Url.Basic
import ApiPlaybook.Url.Domain
import ApiPlaybook.Url.Form
import ApiPlaybook.Url.Host
import ApiPlaybook.Url.PathTemplate
import ApiPlaybook.Url.Percent
import ApiPlaybook.Url.Punycode
import ApiPlaybook.Url.Reader
import ApiPlaybook.Warning
import ApiPlaybook.Yaml.Node
import ApiPlaybook.Yaml.Record
import ApiPlaybook.Yaml.Scalar
import ApiPlaybook.Yaml.Token
import ApiPlaybook.Yaml.TokenStream
import ApiPlaybook.Yaml.Value
import ApiPlaybook.Proofs.Run.Grammar
import ApiPlaybook.Proofs.Run.Frames
import ApiPlaybook.Proofs.Run.Unwinding
import ApiPlaybook.Proofs.Acquisition.Ledger
import ApiPlaybook.Proofs.Acquisition.Once
import ApiPlaybook.Proofs.Acquisition.Extent
import ApiPlaybook.Proofs.Acquisition.Cycles
import ApiPlaybook.Proofs.DryRun.Mirror
import ApiPlaybook.Proofs.Run.Causes
import ApiPlaybook.Proofs.DryRun.Faithful
import ApiPlaybook.Proofs.Template.LookUps
import ApiPlaybook.Proofs.Scoping.Holdings
import ApiPlaybook.Proofs.Scoping.Stacks
import ApiPlaybook.Proofs.Run.Account
import ApiPlaybook.Proofs.Validation.Soundness
import ApiPlaybook.Proofs.Secrecy.Requests
import ApiPlaybook.Proofs.Secrecy.SameLines
import ApiPlaybook.Proofs.Secrecy.Confinement
import ApiPlaybook.Proofs.Run.Nesting
import ApiPlaybook.Proofs.Run.Causality
import ApiPlaybook.Proofs.Acquisition.Sending
import ApiPlaybook.Proofs.Json.Text
import ApiPlaybook.Proofs.Json.Arrangement
import ApiPlaybook.Proofs.Bundle.Records
import ApiPlaybook.Proofs.Bundle.RoundTrip
import ApiPlaybook.Proofs.Bundle.Normal
import ApiPlaybook.Proofs.Yaml.Places
import ApiPlaybook.Proofs.Bundle.Reread
import ApiPlaybook.Proofs.Acquisition.Reuse
import ApiPlaybook.Proofs.Validation.Operations
import ApiPlaybook.Proofs.Run.Renaming
import ApiPlaybook.Proofs.Run.Grouping
import ApiPlaybook.Proofs.OpenApi.Chains
import ApiPlaybook.Proofs.OpenApi.Standing
import ApiPlaybook.Proofs.OpenApi.Additions
import ApiPlaybook.Proofs.OpenApi.Places
import ApiPlaybook.Proofs.OpenApi.Relocation
import ApiPlaybook.Proofs.Scoping.Origins
import ApiPlaybook.Proofs.Preparation.Build
import ApiPlaybook.Proofs.CommandLine.Servers
import ApiPlaybook.Proofs.Url.Bases
import ApiPlaybook.Proofs.Preparation.Segments
import ApiPlaybook.Proofs.Preparation.Credentials
import ApiPlaybook.Proofs.Preparation.HeaderNames
import ApiPlaybook.Proofs.Regex.Matches
import ApiPlaybook.Proofs.Template.Pattern
import ApiPlaybook.Proofs.Template.Scan
import ApiPlaybook.Proofs.Template.Filled
import ApiPlaybook.Proofs.Template.Requests
import ApiPlaybook.Proofs.OpenApi.Following
import ApiPlaybook.Proofs.OpenApi.Parameters
import ApiPlaybook.Proofs.Extraction.Cookies
import ApiPlaybook.Proofs.Url.Punycode
import ApiPlaybook.Proofs.Url.Domains
import ApiPlaybook.Proofs.Url.Addresses
import ApiPlaybook.Proofs.Url.Hosts
import ApiPlaybook.Proofs.Url.Authorities
import ApiPlaybook.Proofs.Url.Hierarchies
import ApiPlaybook.Proofs.Url.Rereading
import ApiPlaybook.Proofs.Extraction.Queries
import ApiPlaybook.Proofs.Validation.Environments
import ApiPlaybook.Proofs.Extraction.Selection
import ApiPlaybook.Proofs.Extraction.SetCookies
import ApiPlaybook.Proofs.Preparation.Required
import ApiPlaybook.Proofs.CommandLine.Precedence
import ApiPlaybook.Proofs.Url.PathTemplates
import ApiPlaybook.Proofs.Extraction.Replays
import ApiPlaybook.Proofs.CommandLine.Summary
import ApiPlaybook.Proofs.Lines.Made
import ApiPlaybook.Proofs.Lines.Runs
import ApiPlaybook.Proofs.Lines.Shown
import ApiPlaybook.Proofs.Lines.Sources
import ApiPlaybook.Proofs.Template.Missing
import ApiPlaybook.Proofs.Extraction.Chains
import ApiPlaybook.Proofs.Extraction.Assignments
