import AccessGate.CommandLine
import AccessGate.Config.Conversion
import AccessGate.Config.Toml
import AccessGate.Config.Tree
import AccessGate.Cors
import AccessGate.Credential
import AccessGate.Decision
import AccessGate.Denial
import AccessGate.Diagnostic
import AccessGate.Environment
import AccessGate.Evaluation
import AccessGate.Gate
import AccessGate.Http.Authority
import AccessGate.Http.Client
import AccessGate.Http.Field
import AccessGate.Http.MediaType
import AccessGate.Http.Message
import AccessGate.Http.Method
import AccessGate.Http.Target
import AccessGate.Json.Document
import AccessGate.Json.Fault
import AccessGate.Json.Printer
import AccessGate.Json.Reader
import AccessGate.Json.Value
import AccessGate.Judge
import AccessGate.Keys.Basic
import AccessGate.Keys.Jwk
import AccessGate.Keys.Manager
import AccessGate.Keys.Rsa
import AccessGate.Keys.Sha256
import AccessGate.Keys.Sharing
import AccessGate.Keys.Source
import AccessGate.Keys.Token
import AccessGate.Main
import AccessGate.Net.Address
import AccessGate.Pattern.CharacterClass
import AccessGate.Pattern.Parser
import AccessGate.Pattern.Program
import AccessGate.Pattern.Scanner
import AccessGate.Pattern.Search
import AccessGate.Pattern.Size
import AccessGate.Pattern.Syntax
import AccessGate.Policy.Client
import AccessGate.Policy.Wire
import AccessGate.Proofs.Actions
import AccessGate.Proofs.ActiveRules
import AccessGate.Proofs.AddressChain
import AccessGate.Proofs.Alike
import AccessGate.Proofs.Base64
import AccessGate.Proofs.BearerToken
import AccessGate.Proofs.Clock
import AccessGate.Proofs.Config.Laying
import AccessGate.Proofs.Config.Tidy
import AccessGate.Proofs.Config.Variables
import AccessGate.Proofs.Config.Written
import AccessGate.Proofs.ConnectionScope
import AccessGate.Proofs.CorsPolicy
import AccessGate.Proofs.CredentialField
import AccessGate.Proofs.DenialText
import AccessGate.Proofs.Description
import AccessGate.Proofs.Entrances
import AccessGate.Proofs.EventBus
import AccessGate.Proofs.FirstLoad
import AccessGate.Proofs.FitKey
import AccessGate.Proofs.Form
import AccessGate.Proofs.ForwardedScheme
import AccessGate.Proofs.HeldKey
import AccessGate.Proofs.History
import AccessGate.Proofs.Http.AskedTwice
import AccessGate.Proofs.Http.FileTarget
import AccessGate.Proofs.Http.HostField
import AccessGate.Proofs.Http.OriginForm
import AccessGate.Proofs.Http.RawAuthority
import AccessGate.Proofs.Http.Target
import AccessGate.Proofs.Http.TargetQuery
import AccessGate.Proofs.Http.TargetText
import AccessGate.Proofs.Http.Userless
import AccessGate.Proofs.Http.WebTarget
import AccessGate.Proofs.IsolatedClaims
import AccessGate.Proofs.Json.Numerals
import AccessGate.Proofs.Json.Printed
import AccessGate.Proofs.Json.Readers
import AccessGate.Proofs.Json.RecordForm
import AccessGate.Proofs.Json.Records
import AccessGate.Proofs.Json.RoundTrip
import AccessGate.Proofs.Json.Whole
import AccessGate.Proofs.JudgedUrl
import AccessGate.Proofs.KeyChoice
import AccessGate.Proofs.KeySharing
import AccessGate.Proofs.LayeredSettings
import AccessGate.Proofs.MatchedUrl
import AccessGate.Proofs.Mediation
import AccessGate.Proofs.Minting
import AccessGate.Proofs.Mirror
import AccessGate.Proofs.OpenGate
import AccessGate.Proofs.Percent
import AccessGate.Proofs.Pieces
import AccessGate.Proofs.PolicyCalls
import AccessGate.Proofs.ProbeOffers
import AccessGate.Proofs.PublishedKey
import AccessGate.Proofs.QuerySource
import AccessGate.Proofs.Reachable
import AccessGate.Proofs.Recorded
import AccessGate.Proofs.RefreshLoop
import AccessGate.Proofs.Registration
import AccessGate.Proofs.Relay
import AccessGate.Proofs.Request
import AccessGate.Proofs.ResponsibleRule
import AccessGate.Proofs.Rsa.Numbers
import AccessGate.Proofs.Rsa.Signature
import AccessGate.Proofs.Settings.FullRecord
import AccessGate.Proofs.Settings.Layers
import AccessGate.Proofs.Settings.Loading
import AccessGate.Proofs.SharedSecret
import AccessGate.Proofs.Shipment
import AccessGate.Proofs.TemplatePieces
import AccessGate.Proofs.Text
import AccessGate.Proofs.TokenDelivery
import AccessGate.Proofs.TokenTravel
import AccessGate.Proofs.Upstream
import AccessGate.Proofs.Url.Address
import AccessGate.Proofs.Url.Authority
import AccessGate.Proofs.Url.Detour
import AccessGate.Proofs.Url.FileAddress
import AccessGate.Proofs.Url.FilePath
import AccessGate.Proofs.Url.HostText
import AccessGate.Proofs.Url.LetterCase
import AccessGate.Proofs.Url.Marks
import AccessGate.Proofs.Url.OwnAuthority
import AccessGate.Proofs.Url.Path
import AccessGate.Proofs.Url.PlainName
import AccessGate.Proofs.Url.Prefix
import AccessGate.Proofs.Url.Query
import AccessGate.Proofs.Url.Reading
import AccessGate.Proofs.Url.Rendered
import AccessGate.Proofs.Url.Starred
import AccessGate.Proofs.Url.Unended
import AccessGate.Proofs.UsableKey
import AccessGate.Proofs.Utf8
import AccessGate.Proofs.Verdict
import AccessGate.Proofs.Vouching
import AccessGate.Proofs.WireForms
import AccessGate.Proofs.WrittenForm
import AccessGate.Proxy.Backend
import AccessGate.Proxy.Forward
import AccessGate.Proxy.HopByHop
import AccessGate.Readiness.Bus
import AccessGate.Readiness.Registry
import AccessGate.Refresh
import AccessGate.Request
import AccessGate.Rule.Basic
import AccessGate.Rule.Matching
import AccessGate.Rule.MethodSet
import AccessGate.Rule.Spec
import AccessGate.Rule.Store
import AccessGate.Rule.Template
import AccessGate.Session
import AccessGate.Settings.Basic
import AccessGate.Settings.Load
import AccessGate.Settings.Schema
import AccessGate.SetupError
import AccessGate.Text.Base64
import AccessGate.Text.Blank
import AccessGate.Text.Double
import AccessGate.Text.Number
import AccessGate.Text.Percent
import AccessGate.Text.Quoted
import AccessGate.Text.Utf8
import AccessGate.Unicode.Case
import AccessGate.Unicode.CaseData
import AccessGate.Unicode.CategoryData
import AccessGate.Unicode.CodeSet
import AccessGate.Unicode.Composition
import AccessGate.Unicode.CompositionData
import AccessGate.Unicode.FlagData
import AccessGate.Unicode.NameExpansionData
import AccessGate.Unicode.NameMapData
import AccessGate.Unicode.Property
import AccessGate.Unicode.ScriptData
import AccessGate.Url.Basic
import AccessGate.Url.DomainName
import AccessGate.Url.Host
import AccessGate.Url.Parser
import AccessGate.Url.Path
import AccessGate.Url.Punycode
import AccessGate.Web
