import SmartSensorNetwork.Network.TcpGet
import SmartSensorNetwork.Network.TcpNotFound

/-!
# The arguments that `get` accepts

`std::stoi` reads a numeral at the front of its argument: it skips blanks,
takes a sign and ignores what follows the digits.
-/

namespace SmartSensorNetwork.TcpServer

open CppStd

/-- Only a decimal numeral is answered as a sensor id, and as its own value. -/
structure AcceptsOnlyIds (server : TcpServer) (i : Instant) (argument : ByteString) :
    Prop where
  accepted : response server i (ascii "get " ++ argument) ≠ invalidSensorId →
    normalize argument ≠ [] ∧ (∀ b ∈ normalize argument, isdigit b) ∧
      ∃ id : UInt32, id.toNat = digitsValue (normalize argument) ∧
        response server i (ascii "get " ++ argument) = (Monitor.sensorDetails id).eval i
  refused : ∀ b ∈ normalize argument, ¬ isdigit b →
    response server i (ascii "get " ++ argument) = invalidSensorId

/-- The argument begins with a numeral in range once blanks and a plus sign
are skipped. -/
structure StartsWithId (argument blanks sign digits rest : ByteString) : Prop where
  parts : IntegerParts argument blanks sign digits rest
  not_minus : sign ≠ [45]
  pos : 1 ≤ digitsValue digits
  le_max : digitsValue digits ≤ 2147483647

theorem StartsWithId.parseId_eq {argument blanks sign digits rest : ByteString}
    (h : StartsWithId argument blanks sign digits rest) :
    parseId (ascii "get " ++ argument) = .ok (UInt32.ofNat (digitsValue digits)) := by
  have hpos := h.pos
  have hmax := h.le_max
  have hread : stoi argument = .ok (digitsValue digits : ℤ) := by
    apply stoi_eq_ok_iff.mpr
    refine ⟨?_, ?_, ?_⟩
    · rw [h.parts.strtol_eq, if_neg h.not_minus]
    · simp only [intMin]
      omega
    · simp only [intMax]
      omega
  have hsign : ¬ (digitsValue digits : ℤ) ≤ 0 := by omega
  simp only [parseId, substr_get, bind, Except.bind, hread, hsign, if_false, Int.toNat_natCast]
  rfl

theorem startsWithId_of_parseId {argument : ByteString} {id : UInt32}
    (h : parseId (ascii "get " ++ argument) = .ok id) :
    ∃ blanks sign digits rest, StartsWithId argument blanks sign digits rest := by
  simp only [parseId, substr_get, bind, Except.bind] at h
  cases hread : stoi argument with
  | error e => simp [hread] at h
  | ok v =>
      have hpos : 0 < v := by
        by_contra hle
        simp [hread, not_lt.mp hle] at h
      obtain ⟨hvalue, -, hmax⟩ := stoi_eq_ok_iff.mp hread
      obtain ⟨blanks, sign, digits, rest, hparts⟩ := exists_integerParts hvalue
      rw [hparts.strtol_eq] at hvalue
      have hminus : sign ≠ [45] := by
        rintro rfl
        rw [if_pos rfl, Option.some.injEq] at hvalue
        omega
      rw [if_neg hminus, Option.some.injEq] at hvalue
      simp only [intMax] at hmax
      exact ⟨blanks, sign, digits, rest, hparts, hminus, by omega, by omega⟩

theorem response_get (server : TcpServer) (i : Instant) (argument : ByteString) :
    response server i (ascii "get " ++ argument) =
      match parseId (ascii "get " ++ normalize argument) with
      | .ok id => (Monitor.sensorDetails id).eval i
      | .error _ => invalidSensorId := by
  rw [response, processRequest_fst, query_get]
  cases parseId (ascii "get " ++ normalize argument) with
  | ok id => exact (sensorDetails_eval i id).symm
  | error e => rfl

theorem StartsWithId.response_eq {argument blanks sign digits rest : ByteString}
    (h : StartsWithId (normalize argument) blanks sign digits rest) (server : TcpServer)
    (i : Instant) :
    response server i (ascii "get " ++ argument) =
      (Monitor.sensorDetails (UInt32.ofNat (digitsValue digits))).eval i := by
  rw [response_get, h.parseId_eq]

/-- Blanks and signs are not digits, and the run of digits is maximal. -/
theorem parts_of_digits {s blanks sign digits rest : ByteString}
    (h : IntegerParts s blanks sign digits rest) (hs : ∀ b ∈ s, isdigit b) :
    blanks = [] ∧ sign = [] ∧ rest = [] := by
  rw [h.eq] at hs
  refine ⟨?_, ?_, ?_⟩
  · apply List.eq_nil_iff_forall_not_mem.mpr
    intro b hb
    have hdigit := hs b (List.mem_append_left _ hb)
    have hblank := h.blanks b hb
    rw [isspace_of_isdigit hdigit] at hblank
    cases hblank
  · rcases h.sign with rfl | rfl | rfl
    · rfl
    · exact absurd (hs 43 (by simp)) (by decide)
    · exact absurd (hs 45 (by simp)) (by decide)
  · cases rest with
    | nil => rfl
    | cons b bs =>
        have hdigit := hs b (by simp)
        rw [h.rest b rfl] at hdigit
        cases hdigit

/-- An accepted argument begins with an id; here nothing stands around it. -/
theorem accepted_of_bare (server : TcpServer) (i : Instant) {argument : ByteString}
    (h : ∀ blanks sign digits rest, StartsWithId (normalize argument) blanks sign digits rest →
      blanks = [] ∧ sign = [] ∧ rest = [])
    (hanswer : response server i (ascii "get " ++ argument) ≠ invalidSensorId) :
    normalize argument ≠ [] ∧ (∀ b ∈ normalize argument, isdigit b) ∧
      ∃ id : UInt32, id.toNat = digitsValue (normalize argument) ∧
        response server i (ascii "get " ++ argument) = (Monitor.sensorDetails id).eval i := by
  cases hparse : parseId (ascii "get " ++ normalize argument) with
  | error e =>
      apply absurd _ hanswer
      rw [response_get, hparse]
  | ok id =>
      obtain ⟨blanks, sign, digits, rest, hstart⟩ := startsWithId_of_parseId hparse
      obtain ⟨rfl, rfl, rfl⟩ := h blanks sign digits rest hstart
      have hdigits : normalize argument = digits := by simpa using hstart.parts.eq
      have hmax := hstart.le_max
      refine ⟨hdigits ▸ hstart.parts.ne_nil, hdigits ▸ hstart.parts.digits,
        UInt32.ofNat (digitsValue digits), ?_, hstart.response_eq server i⟩
      rw [hdigits, UInt32.toNat_ofNat', Nat.mod_eq_of_lt (by omega)]

/-- Only ids are accepted exactly when no numeral in range stands behind
blanks or a plus sign, or in front of further characters. -/
theorem acceptsOnlyIds_iff (server : TcpServer) (i : Instant) (argument : ByteString) :
    AcceptsOnlyIds server i argument ↔
      ∀ blanks sign digits rest, StartsWithId (normalize argument) blanks sign digits rest →
        blanks = [] ∧ sign = [] ∧ rest = [] := by
  constructor
  · intro h blanks sign digits rest hstart
    have hanswer : response server i (ascii "get " ++ argument) ≠ invalidSensorId := by
      rw [hstart.response_eq]
      exact sensorDetails_ne_invalid i _
    exact parts_of_digits hstart.parts (h.accepted hanswer).2.1
  · intro h
    refine ⟨accepted_of_bare server i h, fun b hb hdigit ↦ ?_⟩
    by_contra hanswer
    exact hdigit ((accepted_of_bare server i h hanswer).2.1 b hb)

/-- Letters behind the digits: the sensor 12 is looked up. -/
theorem accepts_digits_then_letters :
    response {} ⟨{}, 0⟩ (ascii "get 12abc") = (Monitor.sensorDetails 12).eval ⟨{}, 0⟩ ∧
      ¬ AcceptsOnlyIds {} ⟨{}, 0⟩ (ascii "12abc") := by
  have hanswer : response {} ⟨{}, 0⟩ (ascii "get " ++ ascii "12abc") =
      (Monitor.sensorDetails 12).eval ⟨{}, 0⟩ := by
    rw [response_get]
    rfl
  refine ⟨hanswer, fun h ↦ ?_⟩
  apply sensorDetails_ne_invalid ⟨{}, 0⟩ 12
  rw [← hanswer]
  exact h.refused 97 (by decide) (by decide)

end SmartSensorNetwork.TcpServer
