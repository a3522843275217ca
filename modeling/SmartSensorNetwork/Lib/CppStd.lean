import Mathlib.Data.List.TakeWhile
import Mathlib.Data.Nat.Digits.Defs
import Mathlib.Data.Nat.ModEq
import Mathlib.Tactic

/-!
# Pieces of the C++ standard library

Byte strings, exceptions, fixed-width unsigned integers, decimal printing,
column padding and `std::stoi`, with the documented behaviour of each.
`std::string` holds arbitrary bytes, so it is a list of bytes here.
-/

namespace CppStd

/-- The exceptions the standard library throws, with their `what()` texts.
`undefinedBehaviour` marks an out-of-range `operator[]`, which C++ leaves
undefined. -/
inductive Exception where
  | runtimeError (what : String)
  | invalidArgument (what : String)
  | outOfRange (what : String)
  | undefinedBehaviour (what : String)
  deriving DecidableEq, Repr

inductive Errno where
  | again
  | wouldBlock
  | other (code : ℕ)
  deriving DecidableEq, Repr

abbrev ByteString := List UInt8

/-- The bytes of a string literal whose characters are all below 256. -/
def ascii (s : String) : ByteString :=
  s.toList.map fun c ↦ c.toNat.toUInt8

/-! ## Fixed-width unsigned integers -/

/-- A type `uintN_t`: `ofNat` is `static_cast`, which keeps the low bytes. -/
class UnsignedInt (T : Type) where
  sizeof : ℕ
  toNat : T → ℕ
  ofNat : ℕ → T
  toNat_lt (x : T) : toNat x < 256 ^ sizeof
  toNat_ofNat (n : ℕ) : toNat (ofNat n) = n % 256 ^ sizeof
  ofNat_toNat (x : T) : ofNat (toNat x) = x

instance : UnsignedInt UInt8 where
  sizeof := 1
  toNat := UInt8.toNat
  ofNat := UInt8.ofNat
  toNat_lt := UInt8.toNat_lt
  toNat_ofNat n := by simp [UInt8.toNat_ofNat']
  ofNat_toNat x := by simp

instance : UnsignedInt UInt32 where
  sizeof := 4
  toNat := UInt32.toNat
  ofNat := UInt32.ofNat
  toNat_lt := UInt32.toNat_lt
  toNat_ofNat n := by simp [UInt32.toNat_ofNat']
  ofNat_toNat x := by simp

instance : UnsignedInt UInt64 where
  sizeof := 8
  toNat := UInt64.toNat
  ofNat := UInt64.ofNat
  toNat_lt := UInt64.toNat_lt
  toNat_ofNat n := by simp [UInt64.toNat_ofNat']
  ofNat_toNat x := by simp

theorem UnsignedInt.ofNat_mod {T : Type} [UnsignedInt T] (n : ℕ) :
    UnsignedInt.ofNat (T := T) (n % 256 ^ UnsignedInt.sizeof T) = UnsignedInt.ofNat n := by
  rw [← UnsignedInt.toNat_ofNat (T := T) n, UnsignedInt.ofNat_toNat]

theorem UnsignedInt.ofNat_congr {T : Type} [UnsignedInt T] {m n : ℕ}
    (h : m ≡ n [MOD 256 ^ UnsignedInt.sizeof T]) :
    UnsignedInt.ofNat (T := T) m = UnsignedInt.ofNat n :=
  calc
    UnsignedInt.ofNat (T := T) m = UnsignedInt.ofNat (m % 256 ^ UnsignedInt.sizeof T) :=
      (UnsignedInt.ofNat_mod m).symm
    _ = UnsignedInt.ofNat (n % 256 ^ UnsignedInt.sizeof T) := congrArg _ h
    _ = UnsignedInt.ofNat n := UnsignedInt.ofNat_mod n

/-- The value of a 64-bit signed expression. An overflow, which the standard
leaves undefined, wraps around as it does in compiled code. -/
def int64 (n : ℤ) : ℤ := n.bmod (2 ^ 64)

theorem int64_of_lt {n : ℤ} (hle : 0 ≤ n) (hlt : n < 2 ^ 63) : int64 n = n :=
  Int.bmod_eq_of_le (by omega) (by omega)

/-! ## Decimal numerals -/

/-- `std::to_string` and `operator<<` on an unsigned integer. -/
def to_string (n : ℕ) : ByteString :=
  (Nat.toDigits 10 n).map fun c ↦ c.toNat.toUInt8

def isdigit (b : UInt8) : Bool := 48 ≤ b && b ≤ 57

/-- `isspace` in the "C" locale. -/
def isspace (b : UInt8) : Bool := b == 32 || (9 ≤ b && b ≤ 13)

def digitsValue (ds : ByteString) : ℕ :=
  ds.foldl (fun n b ↦ 10 * n + (b.toNat - 48)) 0

theorem isdigit_ofChar {c : Char} (hc : c.isDigit) : isdigit c.toNat.toUInt8 := by
  have h : 48 ≤ c.toNat ∧ c.toNat ≤ 57 := by
    simpa [Char.isDigit, UInt32.le_iff_toNat_le] using hc
  have hb : c.toNat.toUInt8.toNat = c.toNat := by
    rw [UInt8.toNat_ofNat', Nat.mod_eq_of_lt (by omega)]
  simp only [isdigit, Bool.and_eq_true, decide_eq_true_eq, UInt8.le_iff_toNat_le, hb]
  exact h

theorem isdigit_of_mem_to_string {n : ℕ} {b : UInt8} (hb : b ∈ to_string n) : isdigit b := by
  obtain ⟨c, hc, rfl⟩ := List.mem_map.mp hb
  exact isdigit_ofChar (Nat.isDigit_of_mem_toDigits (by norm_num) (by norm_num) hc)

theorem to_string_ne_nil (n : ℕ) : to_string n ≠ [] := by
  simp [to_string]

theorem foldl_digitsValue (cs : List Char) (hcs : ∀ c ∈ cs, c.isDigit) (n : ℕ) :
    (cs.map fun c ↦ c.toNat.toUInt8).foldl (fun n b ↦ 10 * n + (b.toNat - 48)) n =
      Nat.ofDigitChars 10 cs n := by
  induction cs generalizing n with
  | nil => simp
  | cons c cs ih =>
      have hc : 48 ≤ c.toNat ∧ c.toNat ≤ 57 := by
        simpa [Char.isDigit, UInt32.le_iff_toNat_le] using hcs c List.mem_cons_self
      have hb : c.toNat.toUInt8.toNat = c.toNat := by
        rw [UInt8.toNat_ofNat', Nat.mod_eq_of_lt (by omega)]
      have hrest := ih (fun d hd ↦ hcs d (List.mem_cons_of_mem c hd)) (10 * n + (c.toNat - 48))
      simpa [hb, Nat.ofDigitChars_cons] using hrest

@[simp] theorem digitsValue_to_string (n : ℕ) : digitsValue (to_string n) = n := by
  have hdigits : ∀ c ∈ Nat.toDigits 10 n, c.isDigit := fun c hc ↦
    Nat.isDigit_of_mem_toDigits (by norm_num) (by norm_num) hc
  rw [digitsValue, to_string, foldl_digitsValue _ hdigits]
  exact Nat.ofDigitChars_ten_toDigits

theorem to_string_injective : Function.Injective to_string :=
  Function.LeftInverse.injective digitsValue_to_string

/-- `std::string::substr(pos)`. -/
def substr (s : ByteString) (pos : ℕ) : Except Exception ByteString :=
  if s.length < pos then .error (.outOfRange "basic_string::substr") else .ok (s.drop pos)

/-! ## `std::stoi` -/

def intMax : ℤ := 2147483647
def intMin : ℤ := -2147483648

/-- The base-ten conversion of `strtol`: skip blanks, take an optional sign
and the longest run of digits, ignore what follows. `none` means that no
conversion could be performed. -/
def strtol (s : ByteString) : Option ℤ :=
  let afterBlanks := s.dropWhile isspace
  let (negative, afterSign) :=
    match afterBlanks with
    | 45 :: rest => (true, rest)
    | 43 :: rest => (false, rest)
    | rest => (false, rest)
  let ds := afterSign.takeWhile isdigit
  if ds = [] then none
  else some (if negative then -(digitsValue ds : ℤ) else digitsValue ds)

/-- `std::stoi` with a 32-bit `int`. -/
def stoi (s : ByteString) : Except Exception ℤ :=
  match strtol s with
  | none => .error (.invalidArgument "stoi")
  | some v =>
      if v < intMin ∨ intMax < v then .error (.outOfRange "stoi") else .ok v

/-- The parts of a string that `strtol` tells apart. -/
structure IntegerParts (s blanks sign digits rest : ByteString) : Prop where
  eq : s = blanks ++ (sign ++ (digits ++ rest))
  blanks : ∀ b ∈ blanks, isspace b
  sign : sign = [] ∨ sign = [43] ∨ sign = [45]
  ne_nil : digits ≠ []
  digits : ∀ b ∈ digits, isdigit b
  rest : ∀ b ∈ rest.head?, isdigit b = false

theorem isspace_of_isdigit {b : UInt8} (hb : isdigit b) : isspace b = false := by
  simp only [isdigit, isspace, Bool.and_eq_true, decide_eq_true_eq] at hb ⊢
  grind

theorem IntegerParts.strtol_eq {s blanks sign digits rest : ByteString}
    (h : IntegerParts s blanks sign digits rest) :
    strtol s = some (if sign = [45] then -(digitsValue digits : ℤ) else digitsValue digits) := by
  obtain ⟨d, ds, hds⟩ := List.exists_cons_of_ne_nil h.ne_nil
  have hdigit : isdigit d := h.digits d (hds ▸ List.mem_cons_self)
  have h45 : d ≠ 45 := by rintro rfl; simp [isdigit] at hdigit
  have h43 : d ≠ 43 := by rintro rfl; simp [isdigit] at hdigit
  have hrun : (digits ++ rest).takeWhile isdigit = digits := by
    rw [List.takeWhile_append_of_pos h.digits]
    cases hrest : rest with
    | nil => rw [List.takeWhile_nil, List.append_nil]
    | cons b bs =>
        have hb : isdigit b = false := h.rest b (by rw [hrest]; rfl)
        rw [List.takeWhile_cons_of_neg (by simp [hb]), List.append_nil]
  have hblanks : s.dropWhile isspace = sign ++ (digits ++ rest) := by
    rw [h.eq, List.dropWhile_append_of_pos h.blanks]
    rcases h.sign with rfl | rfl | rfl
    · rw [List.nil_append, hds, List.cons_append,
        List.dropWhile_cons_of_neg (by simp [isspace_of_isdigit hdigit])]
    · rfl
    · rfl
  rw [strtol, hblanks]
  rcases h.sign with rfl | rfl | rfl
  · rw [hds, List.cons_append] at hrun
    simp [hds, h45, h43, hrun]
  · simp [hrun, h.ne_nil]
  · simp [hrun, h.ne_nil]

theorem exists_integerParts {s : ByteString} {v : ℤ} (h : strtol s = some v) :
    ∃ blanks sign digits rest, IntegerParts s blanks sign digits rest := by
  have hs : s = s.takeWhile isspace ++ s.dropWhile isspace := List.takeWhile_append_dropWhile.symm
  have hsign : ∃ sign body, s.dropWhile isspace = sign ++ body ∧
      (sign = [] ∨ sign = [43] ∨ sign = [45]) ∧ body.takeWhile isdigit ≠ [] := by
    rw [strtol] at h
    split at h
    rename_i negative body hbody
    have hne : body.takeWhile isdigit ≠ [] := by
      intro hnil
      simp [hnil] at h
    split at hbody
    · rename_i rest hrest
      obtain ⟨-, rfl⟩ := Prod.mk.inj hbody
      exact ⟨[45], rest, hrest, .inr (.inr rfl), hne⟩
    · rename_i rest hrest
      obtain ⟨-, rfl⟩ := Prod.mk.inj hbody
      exact ⟨[43], rest, hrest, .inr (.inl rfl), hne⟩
    · obtain ⟨-, hrest⟩ := Prod.mk.inj hbody
      exact ⟨[], body, hrest, .inl rfl, hne⟩
  obtain ⟨sign, body, hbody, hsign, hne⟩ := hsign
  refine ⟨s.takeWhile isspace, sign, body.takeWhile isdigit, body.dropWhile isdigit, ?_⟩
  exact {
    eq := by rw [List.takeWhile_append_dropWhile, ← hbody, ← hs]
    blanks := fun b hb ↦ List.mem_takeWhile_imp hb
    sign := hsign
    ne_nil := hne
    digits := fun b hb ↦ List.mem_takeWhile_imp hb
    rest := fun b hb ↦ by
      have hhead := List.head?_dropWhile_not isdigit body
      rw [Option.mem_def.mp hb] at hhead
      exact hhead }

theorem strtol_to_string (n : ℕ) : strtol (to_string n) = some (n : ℤ) := by
  have hparts : IntegerParts (to_string n) [] [] (to_string n) [] := {
    eq := by rw [List.nil_append, List.nil_append, List.append_nil]
    blanks := by simp
    sign := .inl rfl
    ne_nil := to_string_ne_nil n
    digits := fun b ↦ isdigit_of_mem_to_string
    rest := by simp }
  rw [hparts.strtol_eq, if_neg (by simp), digitsValue_to_string]

theorem stoi_eq_ok_iff {s : ByteString} {v : ℤ} :
    stoi s = .ok v ↔ strtol s = some v ∧ intMin ≤ v ∧ v ≤ intMax := by
  rw [stoi]
  cases hread : strtol s with
  | none => simp
  | some w =>
      by_cases hrange : w < intMin ∨ intMax < w
      · simp only [hrange, if_true, reduceCtorEq, Option.some.injEq, false_iff]
        rintro ⟨rfl, hmin, hmax⟩
        omega
      · simp only [hrange, if_false, Except.ok.injEq, Option.some.injEq]
        constructor
        · rintro rfl
          exact ⟨rfl, by omega, by omega⟩
        · exact fun h ↦ h.1

/-- Reading back a printed numeral succeeds exactly up to `intMax`. -/
theorem stoi_to_string (n : ℕ) :
    stoi (to_string n) =
      if (n : ℤ) ≤ intMax then .ok (n : ℤ) else .error (.outOfRange "stoi") := by
  have hmin : ¬ (n : ℤ) < intMin := by simp only [intMin]; omega
  rw [stoi, strtol_to_string]
  by_cases hn : (n : ℤ) ≤ intMax
  · have hmax : ¬ intMax < (n : ℤ) := by omega
    simp [hn, hmin, hmax]
  · have hlt : intMax < (n : ℤ) := by omega
    simp [hn, hlt]

/-! ## Lines -/

def unlines (ls : List ByteString) : ByteString := (ls.map fun l ↦ l ++ [10]).flatten

@[simp] theorem unlines_nil : unlines [] = [] := rfl

@[simp] theorem unlines_cons (l : ByteString) (ls : List ByteString) :
    unlines (l :: ls) = l ++ 10 :: unlines ls := by
  simp [unlines]

theorem unlines_append (ls ms : List ByteString) :
    unlines (ls ++ ms) = unlines ls ++ unlines ms := by
  simp [unlines]

theorem splitOn_unlines_append {ls : List ByteString} (hls : ∀ l ∈ ls, 10 ∉ l)
    (rest : ByteString) : (unlines ls ++ rest).splitOn 10 = ls ++ rest.splitOn 10 := by
  induction ls with
  | nil => rfl
  | cons l ls ih =>
      have hl : 10 ∉ l := hls l List.mem_cons_self
      have hrest := ih fun l' hl' ↦ hls l' (List.mem_cons_of_mem l hl')
      rw [unlines_cons, List.append_assoc, List.cons_append,
        List.splitOn_append_cons_self_of_not_mem hl, hrest]
      rfl

theorem line_eq_of_append_eq {l m s t : ByteString} (hl : 10 ∉ l) (hm : 10 ∉ m)
    (h : l ++ 10 :: s = m ++ 10 :: t) : l = m := by
  have hsplit := congrArg (List.splitOn 10) h
  rw [List.splitOn_append_cons_self_of_not_mem hl,
    List.splitOn_append_cons_self_of_not_mem hm] at hsplit
  exact (List.cons.inj hsplit).1

theorem lf_not_mem_to_string (n : ℕ) : 10 ∉ to_string n := by
  intro h
  have hdigit := isdigit_of_mem_to_string h
  simp [isdigit] at hdigit

/-! ## Stream formatting -/

/-- `std::left << std::setw(width) << s`: pads on the right, never cuts. -/
def setw (width : ℕ) (s : ByteString) : ByteString :=
  s ++ List.replicate (width - s.length) 32

/-- The fields of a line, as `operator>>` takes them: runs of blanks separate. -/
def words (s : ByteString) : List ByteString := (s.splitOnP isspace).filter (· ≠ [])

/-- A field that can be read back. -/
def isWord (w : ByteString) : Bool := w ≠ [] && w.all fun b ↦ !isspace b

theorem isWord_iff {w : ByteString} : isWord w ↔ w ≠ [] ∧ ∀ b ∈ w, isspace b = false := by
  simp [isWord]

theorem words_cons_of_isspace {b : UInt8} (hb : isspace b) (s : ByteString) :
    words (b :: s) = words s := by
  have hsplit : (b :: s).splitOnP isspace = [] :: s.splitOnP isspace := by
    rw [List.splitOnP_cons_eq_if_modifyHead, if_pos hb]
  rw [words, hsplit]
  rfl

theorem words_append_cons {w : ByteString} (hw : isWord w) {b : UInt8} (hb : isspace b)
    (s : ByteString) : words (w ++ b :: s) = w :: words s := by
  obtain ⟨hne, hblank⟩ := isWord_iff.mp hw
  rw [words, List.splitOnP_append_cons_of_forall_mem hblank b hb, List.filter_cons]
  simp [hne, words]

theorem words_replicate_append (n : ℕ) (s : ByteString) :
    words (List.replicate n 32 ++ s) = words s := by
  induction n with
  | zero => rfl
  | succ n ih =>
      rw [List.replicate_succ, List.cons_append, words_cons_of_isspace (by decide), ih]

/-- A column that is wider than its word ends in a blank. -/
theorem words_setw_append {w : ByteString} (hw : isWord w) {width : ℕ} (hlt : w.length < width)
    (s : ByteString) : words (setw width w ++ s) = w :: words s := by
  obtain ⟨n, hn⟩ : ∃ n, width - w.length = n + 1 := ⟨width - w.length - 1, by omega⟩
  rw [setw, hn, List.replicate_succ, List.append_assoc, List.cons_append,
    words_append_cons hw (by decide), words_replicate_append]

/-- A column that is not wider than its word runs into the next one. -/
theorem setw_of_le {w : ByteString} {width : ℕ} (hle : width ≤ w.length) : setw width w = w := by
  rw [setw, Nat.sub_eq_zero_of_le hle, List.replicate_zero, List.append_nil]

theorem isWord_append {v w : ByteString} (hv : isWord v) (hw : isWord w) : isWord (v ++ w) := by
  rw [isWord_iff] at hv hw ⊢
  refine ⟨List.append_ne_nil_of_left_ne_nil hv.1 w, fun b hb ↦ ?_⟩
  rcases List.mem_append.mp hb with hb | hb
  · exact hv.2 b hb
  · exact hw.2 b hb

theorem isWord_to_string (n : ℕ) : isWord (to_string n) :=
  isWord_iff.mpr ⟨to_string_ne_nil n, fun _ hb ↦ isspace_of_isdigit (isdigit_of_mem_to_string hb)⟩

theorem length_to_string_le_iff {n k : ℕ} (hk : 0 < k) :
    (to_string n).length ≤ k ↔ n < 10 ^ k := by
  rw [to_string, List.length_map]
  exact Nat.length_toDigits_le_iff (by norm_num) hk

end CppStd
