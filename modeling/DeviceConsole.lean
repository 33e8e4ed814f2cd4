import DeviceConsole.Address
import DeviceConsole.Address.Set
import DeviceConsole.Backend.Exchange
import DeviceConsole.Backend.Script
import DeviceConsole.Backend.Status
import DeviceConsole.Binary64.Basic
import DeviceConsole.Binary64.Text
import DeviceConsole.Calendar
import DeviceConsole.Certificate
import DeviceConsole.Cidr
import DeviceConsole.Client
import DeviceConsole.Client.Error
import DeviceConsole.Command.Backend
import DeviceConsole.Command.Basic
import DeviceConsole.Command.Error
import DeviceConsole.Command.Format
import DeviceConsole.Command.Report
import DeviceConsole.Command.Respond
import DeviceConsole.Command.Settings
import DeviceConsole.Command.Targets
import DeviceConsole.Command.View
import DeviceConsole.CommandLine.Given
import DeviceConsole.CommandLine.Grammar
import DeviceConsole.CommandLine.Opt
import DeviceConsole.CommandLine.Reader
import DeviceConsole.Console
import DeviceConsole.ConsoleError
import DeviceConsole.Credential
import DeviceConsole.Decimal.Integer
import DeviceConsole.Dictionary
import DeviceConsole.Discovery
import DeviceConsole.Http
import DeviceConsole.Json.Basic
import DeviceConsole.Json.Decode
import DeviceConsole.Json.Printer
import DeviceConsole.Json.Reader
import DeviceConsole.Main
import DeviceConsole.Proofs.Address
import DeviceConsole.Proofs.Address.Order
import DeviceConsole.Proofs.Address.Quad
import DeviceConsole.Proofs.Backend.Course
import DeviceConsole.Proofs.Backend.Race
import DeviceConsole.Proofs.Backend.Run
import DeviceConsole.Proofs.Binary64
import DeviceConsole.Proofs.Cidr
import DeviceConsole.Proofs.Client.Base
import DeviceConsole.Proofs.Client.Outcome
import DeviceConsole.Proofs.Client.Refusal
import DeviceConsole.Proofs.Client.Resource
import DeviceConsole.Proofs.Client.Rows
import DeviceConsole.Proofs.Client.Server
import DeviceConsole.Proofs.Command.ExitCode
import DeviceConsole.Proofs.Command.Format
import DeviceConsole.Proofs.CommandLine.Format
import DeviceConsole.Proofs.Console.Devices
import DeviceConsole.Proofs.Console.Listing
import DeviceConsole.Proofs.Credential.Form
import DeviceConsole.Proofs.Credential.Secrecy
import DeviceConsole.Proofs.Dictionary
import DeviceConsole.Proofs.Discovery.Draft
import DeviceConsole.Proofs.Discovery.Loop
import DeviceConsole.Proofs.Discovery.Request
import DeviceConsole.Proofs.Discovery.Submit
import DeviceConsole.Proofs.Discovery.Toggle
import DeviceConsole.Proofs.Discovery.Update
import DeviceConsole.Proofs.Json.Canonical
import DeviceConsole.Proofs.Json.Exact
import DeviceConsole.Proofs.Json.Field
import DeviceConsole.Proofs.Json.Path
import DeviceConsole.Proofs.Json.Roundtrip
import DeviceConsole.Proofs.Json.Wanted
import DeviceConsole.Proofs.Provisioning.Call
import DeviceConsole.Proofs.Provisioning.Choice
import DeviceConsole.Proofs.Provisioning.Header
import DeviceConsole.Proofs.Provisioning.Race
import DeviceConsole.Proofs.Provisioning.Serve
import DeviceConsole.Proofs.Provisioning.Settle
import DeviceConsole.Proofs.Provisioning.Submit
import DeviceConsole.Proofs.Provisioning.Ticks
import DeviceConsole.Proofs.Provisioning.Toggle
import DeviceConsole.Proofs.Settings.Connection
import DeviceConsole.Proofs.Settings.Heard
import DeviceConsole.Proofs.Settings.Kept
import DeviceConsole.Proofs.Settings.Layer
import DeviceConsole.Proofs.Settings.Layered
import DeviceConsole.Proofs.Settings.Leaf
import DeviceConsole.Proofs.Settings.Override
import DeviceConsole.Proofs.Settings.Requested
import DeviceConsole.Proofs.Settings.Roundtrip
import DeviceConsole.Proofs.Settings.Set
import DeviceConsole.Proofs.Settings.Shown
import DeviceConsole.Proofs.Settings.Stored
import DeviceConsole.Proofs.Settings.Variable
import DeviceConsole.Proofs.Sorting
import DeviceConsole.Proofs.Target.Arguments
import DeviceConsole.Proofs.Target.Block
import DeviceConsole.Proofs.Target.Field
import DeviceConsole.Proofs.Target.List
import DeviceConsole.Proofs.Target.Text
import DeviceConsole.Proofs.Target.Tokens
import DeviceConsole.Proofs.Telemetry.Body
import DeviceConsole.Proofs.Telemetry.Keys
import DeviceConsole.Proofs.Telemetry.Plan
import DeviceConsole.Proofs.Telemetry.Series
import DeviceConsole.Proofs.Telemetry.Sides
import DeviceConsole.Proofs.Telemetry.Spelling
import DeviceConsole.Proofs.Telemetry.Window
import DeviceConsole.Proofs.Text.Blank
import DeviceConsole.Proofs.Text.LowerCase
import DeviceConsole.Proofs.Text.Parts
import DeviceConsole.Proofs.Toml.Assigned
import DeviceConsole.Proofs.Toml.Document
import DeviceConsole.Proofs.Toml.Lines
import DeviceConsole.Proofs.Toml.Shown
import DeviceConsole.Proofs.Toml.Verbatim
import DeviceConsole.Proofs.Url.Authority
import DeviceConsole.Proofs.Url.Endpoint
import DeviceConsole.Proofs.Url.Host
import DeviceConsole.Proofs.Url.Number
import DeviceConsole.Proofs.Url.Path
import DeviceConsole.Proofs.Url.Percent
import DeviceConsole.Proofs.Url.Punycode
import DeviceConsole.Proofs.Url.Text
import DeviceConsole.Proofs.Wire.Codec
import DeviceConsole.Proofs.Wire.Device
import DeviceConsole.Proofs.Wire.Listed
import DeviceConsole.Proofs.Wire.Row
import DeviceConsole.Proofs.Wire.Spelling
import DeviceConsole.Selection
import DeviceConsole.Settings.Basic
import DeviceConsole.Settings.Connection
import DeviceConsole.Settings.Edit
import DeviceConsole.Settings.Error
import DeviceConsole.Settings.File
import DeviceConsole.Settings.Layer
import DeviceConsole.Settings.Variable
import DeviceConsole.Target
import DeviceConsole.Target.Field
import DeviceConsole.Telemetry.Body
import DeviceConsole.Telemetry.Query
import DeviceConsole.Telemetry.Series
import DeviceConsole.Telemetry.Window
import DeviceConsole.Text.Blank
import DeviceConsole.Text.Combining
import DeviceConsole.Text.LowerCase
import DeviceConsole.Text.Quoted
import DeviceConsole.Text.Table
import DeviceConsole.Text.Unprintable
import DeviceConsole.Text.Width
import DeviceConsole.Toml.Date
import DeviceConsole.Toml.Document
import DeviceConsole.Toml.Number
import DeviceConsole.Toml.Reader
import DeviceConsole.Toml.Strings
import DeviceConsole.Url.Basic
import DeviceConsole.Url.Host
import DeviceConsole.Url.Percent
import DeviceConsole.Url.Punycode
import DeviceConsole.Wire.Address
import DeviceConsole.Wire.Credential
import DeviceConsole.Wire.Device
import DeviceConsole.Wire.Discovery
import DeviceConsole.Wire.Query
import DeviceConsole.Yaml.Printer
import DeviceConsole.Yaml.Scalar
