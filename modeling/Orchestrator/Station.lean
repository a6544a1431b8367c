import Orchestrator.Api.Service
import Orchestrator.Digest.Sha256
import Orchestrator.Settings

/-!
A service at work: an orchestrator whose identifiers come from a seed, and whose clock readings follow
the moments at which requests arrive.

Readings are given a nanosecond apart and never go back, so that no two are equal even where the
clock stands still between two requests.
-/

namespace Orchestrator

/-- The moment some nanoseconds later. -/
def Timestamp.addNanos (t : Timestamp) (n : Nat) : Timestamp :=
  let nanos := t.nanos + n
  ⟨t.seconds + (nanos / nanosPerSecond : Nat), nanos % nanosPerSecond⟩

/-- Marks 128 bits as those of a random identifier, which has the version four. -/
def Uuid.ofRandom (bits : BitVec 128) : Uuid :=
  let version := (bits &&& ~~~(0xF#128 <<< 76)) ||| (0x4#128 <<< 76)
  ⟨(version &&& ~~~(0x3#128 <<< 62)) ||| (0x2#128 <<< 62)⟩

/-- Where fresh identifiers and clock readings come from. -/
structure Supply where
  seed : List UInt8
  /-- The moment of a reading, -/
  moment : Timestamp
  /-- and the number of that reading. -/
  first : Nat

namespace Supply

/-- The reading with a number. -/
def reading (s : Supply) (n : Nat) : Timestamp := s.moment.addNanos (n - s.first)

/-- The identifier with a number: half of the digest of the seed and the number. -/
def identifier (s : Supply) (n : Nat) : Uuid :=
  let octets := (Sha256.digest (s.seed ++ Sha256.bigEndian 8 n)).take 16
  .ofRandom (BitVec.ofNat 128 (octets.foldl (fun value octet => 256 * value + octet.toNat) 0))

def stamp (s : Supply) (n : Nat) : Stamp := ⟨s.identifier n, s.reading n⟩

/-- Goes on with the readings from a number on at a moment, or later if the readings are ahead. -/
def renew (s : Supply) (now : Timestamp) (used : Nat) : Supply :=
  let next := s.reading used
  { s with moment := if next < now then now else next, first := used }

end Supply

/-- A service at work. -/
structure Station where
  hub : Hub
  supply : Supply

namespace Station

/-- A service that begins its work at a moment. -/
def start (settings : Settings) (seed : List UInt8) (now : Timestamp) : Station :=
  let supply : Supply := ⟨seed, now, 0⟩
  ⟨.empty settings.mode supply.stamp, supply⟩

/-- Answers a request that arrives at a moment, and does the work that follows from it. -/
def answer (s : Station) (now : Timestamp) (r : Http.Request) : Http.Response × Station :=
  let supply := s.supply.renew now s.hub.used
  let (response, hub) := Api.serve true { s.hub with supply := supply.stamp } r
  (response, ⟨hub.settle, supply⟩)

/-- Removes the actions that are too old at a moment. -/
def expire (s : Station) (settings : Settings) (now : Timestamp) : Station :=
  { s with hub := s.hub.expire now settings.actionAge }

/-- Removes the packs that are too old at a moment. -/
def sweep (s : Station) (settings : Settings) (now : Timestamp) : Station :=
  { s with hub := s.hub.sweep now settings.packAge }

end Station

end Orchestrator
