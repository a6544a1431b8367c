import Orchestrator.Flow.Instance
import Orchestrator.Number.Reading
import Orchestrator.Text.Blank

/-!
How a service is set up: what can be set, how each value is read, and what holds by default.
-/

namespace Orchestrator

/-- How a service is set up. -/
structure Settings where
  host : String
  port : Nat
  /-- After how many seconds in one state an action is removed. -/
  actionTtl : Nat
  /-- Whether packs that are not seen any more are removed. -/
  sweepsPacks : Bool
  /-- When, every day, they are removed. -/
  sweepTime : TimeOfDay
  /-- For how many seconds a pack may stay unseen. -/
  packGrace : Nat
  /-- How many seconds lie between two removals of old actions. -/
  expiryInterval : Nat
  mode : DependencyMode
  logLevel : Option String
  deriving DecidableEq, Repr, Inhabited

/-- The things that can be set. -/
inductive Setting where
  | host
  | port
  | actionTtl
  | sweepsPacks
  | sweepTime
  | packGrace
  | expiryInterval
  | mode
  | logLevel
  deriving DecidableEq, Repr, Inhabited

/-- Why a value is refused. -/
inductive ValueFault where
  /-- It cannot be read. -/
  | unreadable
  /-- It is none of those that there are. -/
  | notAChoice
  deriving DecidableEq, Repr, Inhabited

namespace Setting

/-- All settings, in the order in which they are looked up. -/
def all : List Setting :=
  [host, port, actionTtl, sweepsPacks, sweepTime, packGrace, expiryInterval, mode, logLevel]

/-- The name of the setting on the command line. -/
def flag : Setting → String
  | host => "host"
  | port => "port"
  | actionTtl => "ttl-in-seconds"
  | sweepsPacks => "should-delete-dead-packs"
  | sweepTime => "delete-dead-packs-at"
  | packGrace => "pack-grace-period-in-seconds"
  | expiryInterval => "action-expiry-interval-in-seconds"
  | mode => "depends-on-mode"
  | logLevel => "loglevel"

/-- The name of the setting in the environment. -/
def variableName : Setting → String
  | host => "HOST"
  | port => "PORT"
  | actionTtl => "TTL_IN_SECONDS"
  | sweepsPacks => "SHOULD_DELETE_DEAD_PACKS"
  | sweepTime => "DELETE_DEAD_PACKS_AT_HH_COLON_MM"
  | packGrace => "PACK_GRACE_PERIOD_UNTIL_MARKED_DEAD_IN_SECONDS"
  | expiryInterval => "ACTION_EXPIRY_INTERVAL_IN_SECONDS"
  | mode => "DEPENDS_ON_MODE"
  | logLevel => "LOGLEVEL"

/-- The setting with a name on the command line. -/
def ofFlag? (name : String) : Option Setting := all.find? fun s => s.flag == name

end Setting

namespace Settings

/-- What holds where nothing is set. -/
def default : Settings where
  host := "0.0.0.0"
  port := 8080
  actionTtl := 31536000
  sweepsPacks := false
  sweepTime := ⟨23 * 3600, 0⟩
  packGrace := 604800
  expiryInterval := 60
  mode := .any
  logLevel := none

/-- Reads the number of a port. -/
def port? (raw : String) : Option Nat := do
  let n ← Numeral.integer? raw.toList
  if 0 ≤ n ∧ n ≤ 65535 then some n.toNat else none

/-- Reads a number of seconds, which fits 64 bits. -/
def seconds? (raw : String) : Option Nat := do
  let digits := match raw.toList with
    | '+' :: digits => digits
    | digits => digits
  let n ← Numeral.natural? digits
  if n < Nat.pow 2 64 then some n else none

/-- The words for yes and no, in lower case. -/
def truthWords : List (String × Bool) :=
  ["y", "yes", "t", "true", "on", "1"].map (·, true) ++
    ["n", "no", "f", "false", "off", "0"].map (·, false)

/-- Reads a word for yes or no in any case. -/
def truth? (raw : String) : Option Bool := truthWords.lookup (Text.lowerAscii raw)

/-- Reads a value and sets it. -/
def set (s : Settings) (which : Setting) (raw : String) : Except ValueFault Settings :=
  let readable {α : Type} (value : Option α) : Except ValueFault α :=
    value.elim (.error .unreadable) .ok
  match which with
  | .host => .ok { s with host := raw }
  | .port => (readable (port? raw)).map fun port => { s with port }
  | .actionTtl => (readable (seconds? raw)).map fun actionTtl => { s with actionTtl }
  | .sweepsPacks => (readable (truth? raw)).map fun sweepsPacks => { s with sweepsPacks }
  | .sweepTime =>
    (readable (TimeOfDay.parse? false (Text.trim raw))).map fun sweepTime => { s with sweepTime }
  | .packGrace => (readable (seconds? raw)).map fun packGrace => { s with packGrace }
  | .expiryInterval => (readable (seconds? raw)).map fun expiryInterval => { s with expiryInterval }
  | .mode =>
    match DependencyMode.choices.lookup raw with
    | some mode => .ok { s with mode }
    | none => .error .notAChoice
  | .logLevel => .ok { s with logLevel := some raw }

/-- The address that the service listens on. -/
def bindAddress (s : Settings) : String := s.host ++ ":" ++ decimalText s.port

/-- The longest duration, in seconds, that is used as it was set. -/
def longestDuration : Nat := (Nat.pow 2 63 - 1) / 1000

/-- A number of seconds as a duration; one that is too long becomes a hundred years. -/
def duration (seconds : Nat) : Nat :=
  if seconds ≤ longestDuration then seconds else 100 * 365 * 86400

/-- The age in seconds at which actions are removed. -/
def actionAge (s : Settings) : Nat := duration s.actionTtl

/-- The age in seconds at which packs are removed. -/
def packAge (s : Settings) : Nat := duration s.packGrace

/-- The seconds between two removals of old actions, at least one. -/
def expiryPeriod (s : Settings) : Nat := max s.expiryInterval 1

end Settings

end Orchestrator
