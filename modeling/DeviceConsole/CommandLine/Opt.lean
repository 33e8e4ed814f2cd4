import DeviceConsole.Command.Format
import DeviceConsole.Decimal.Integer
import DeviceConsole.Telemetry.Window
import DeviceConsole.Text.LowerCase

/-! The options of the command line: how each is written, and the values it takes. -/
namespace DeviceConsole.CommandLine

/-- A flag takes no value. Only flags of which the number counts, and options that collect their
values, can be repeated. -/
inductive Arity where
  | flag | count | value | collect
deriving DecidableEq, Repr

def Arity.takesValue : Arity → Bool
  | flag | count => false
  | value | collect => true

def Arity.repeatable : Arity → Bool
  | flag | value => false
  | count | collect => true

inductive Opt where
  | profile | server | output | verbose | quiet | yes | insecure | timeout | help | version
  | provisioned | all | hostname | port | password | expand | targets | cidr | credential
  | ceiling | duration | aggregation
deriving DecidableEq, Repr

namespace Opt

/-- The options that are understood everywhere. -/
def common : List Opt :=
  [profile, server, output, verbose, quiet, yes, insecure, timeout, help, version]

def name : Opt → String
  | profile => "profile"
  | server => "server"
  | output => "output"
  | verbose => "verbose"
  | quiet => "quiet"
  | yes => "yes"
  | insecure => "insecure"
  | timeout => "timeout"
  | help => "help"
  | version => "version"
  | provisioned => "provisioned"
  | all => "all"
  | hostname => "hostname"
  | port => "port"
  | password => "password"
  | expand => "expand"
  | targets => "targets"
  | cidr => "cidr"
  | credential => "credential"
  | ceiling => "ceiling"
  | duration => "duration"
  | aggregation => "aggregation"

def letter? : Opt → Option Char
  | profile => some 'p'
  | server => some 's'
  | output => some 'o'
  | verbose => some 'v'
  | quiet => some 'q'
  | yes => some 'y'
  | insecure => some 'k'
  | help => some 'h'
  | version => some 'V'
  | credential => some 'c'
  | duration => some 'd'
  | aggregation => some 'a'
  | _ => none

def arity : Opt → Arity
  | quiet | yes | insecure | help | version | all | expand | cidr => .flag
  | verbose => .count
  | credential => .collect
  | _ => .value

/-- The environment variable that stands in where the option is not given. -/
def environment? : Opt → Option String
  | profile => some "NMSOPS_PROFILE"
  | server => some "NMSOPS_SERVER"
  | output => some "NMSOPS_OUTPUT"
  | insecure => some "NMSOPS_INSECURE"
  | timeout => some "NMSOPS_TIMEOUT"
  | password => some "NMSOPS_CREDENTIAL_PASSWORD"
  | _ => none

end Opt

/-! ### Values -/

def natural? (s : String) : Option UInt64 := Decimal.readUInt64? s.toList

def id? (s : String) : Option Int64 := Decimal.readInt64? s.toList

def ids? (s : String) : Option (List Int64) := (s.toList.splitOn ',').mapM Decimal.readInt64?

def Opt.accepts (o : Opt) (s : String) : Bool :=
  match o with
  | output => (OutputFormat.ofName? s).isSome
  | insecure | provisioned => (Text.bool? s).isSome
  | timeout | ceiling => (natural? s).isSome
  | credential => (ids? s).isSome
  | duration => (DurationPreset.ofText? s).isSome
  | aggregation => (Aggregation.ofText? s).isSome
  | _ => true

end DeviceConsole.CommandLine
