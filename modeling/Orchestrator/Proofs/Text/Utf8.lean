import Orchestrator.Text.Utf8

/-!
Texts and the octets that they are written with: a text is determined by its octets, and the octets
that are read as a text are those that it is written with.
-/

namespace Orchestrator

namespace Utf8

theorem octets_eq (s : String) : octets s = s.toByteArray.data.toList := rfl

theorem length_octets (s : String) : (octets s).length = s.utf8ByteSize := by
  simp [octets]

theorem octets_append (s t : String) : octets (s ++ t) = octets s ++ octets t := by
  simp [octets_eq]

theorem octets_inj {s t : String} (h : octets s = octets t) : s = t := by
  rw [octets_eq, octets_eq] at h
  exact String.toByteArray_inj.1 (ByteArray.ext (Array.toList_inj.1 h))

theorem text?_eq_some {bytes : ByteArray} {s : String} :
    text? bytes = some s ↔ bytes.data.toList = octets s := by
  unfold text? String.fromUTF8?
  split
  · next hvalid =>
    constructor
    · intro h
      rw [← Option.some.inj h]
      rfl
    · intro h
      exact congrArg some (octets_inj h)
  · next hvalid =>
    refine ⟨nofun, fun h => absurd ?_ hvalid⟩
    have hbytes : bytes = s.toByteArray := ByteArray.ext (Array.toList_inj.1 h)
    rw [hbytes]
    exact s.isValidUTF8

end Utf8

end Orchestrator
