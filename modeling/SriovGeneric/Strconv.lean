import SriovGeneric.Types
import Mathlib.Algebra.Group.Int

/-!
# `trySetKernelParam` and the Go library functions it uses

`trySetKernelParam` runs `/bin/sh bindata/scripts/enable-kargs.sh kparam`; the outcome of the run is
a `CmdResult`.  A run the shell reports as not found (exit status 127) is tolerated, any other
failure is returned as the error, and on success the trimmed stdout is read by `strconv.Atoi`: a
positive number asks for a reboot, a number `≤ 0` does not, and an unreadable stdout is returned as
the `Atoi` error.  Both versions of the plugin share this function word for word.

    trySetKernelParam_reboot_iff : (trySetKernelParam run).1 = true ↔ ReportsReboot run
    trySetKernelParam_err_iff    : (trySetKernelParam run).2.isSome ↔ SetterFails run
    trySetKernelParam_printed    : trySetKernelParam (.exited 0 (toString i ++ "\n")) =
                                     (decide (0 < i), none)     (i in the range of `int`)
-/

namespace Generic

/-! ## Go library functions -/

/-- `unicode.IsSpace`: the characters of the Unicode `White_Space` property. -/
def isSpace (c : Char) : Bool :=
  let n := c.toNat
  (9 ≤ n && n ≤ 13) || n == 32 || n == 0x85 || n == 0xA0 || n == 0x1680 ||
    (0x2000 ≤ n && n ≤ 0x200A) || n == 0x2028 || n == 0x2029 || n == 0x202F || n == 0x205F ||
    n == 0x3000

/-- `strings.TrimSpace`. -/
def trimSpace (s : String) : String :=
  ⟨((s.toList.dropWhile isSpace).reverse.dropWhile isSpace).reverse⟩

/-- The value of a list of decimal digits. -/
def digitsValue (ds : List Char) : Nat :=
  ds.foldl (fun n d => 10 * n + (d.toNat - '0'.toNat)) 0

/-- `strconv.Atoi` with a 64-bit `int`: an optional sign and one or more decimal digits whose value
fits `int`; anything else is a `*strconv.NumError`. -/
def atoi (s : String) : Except Error Int :=
  let (neg, digits) : Bool × List Char := match s.toList with
    | '-' :: ds => (true, ds)
    | '+' :: ds => (false, ds)
    | ds => (false, ds)
  let n : Int := if neg then -(digitsValue digits : Int) else digitsValue digits
  if digits ≠ [] ∧ digits.all Char.isDigit ∧ -2 ^ 63 ≤ n ∧ n < 2 ^ 63 then .ok n
  else .error (.numError s)

/-- `strings.Contains`. -/
def contains (s substr : String) : Bool :=
  s.toList.tails.any (substr.toList.isPrefixOf ·)

/-! ## Running the script -/

/-- The error `cmd.Run()` returns: nil exactly when the script exited 0. -/
def CmdResult.err : CmdResult → Option Error
  | .exited status _ => if status = 0 then none else some (.exitError status)
  | .failed msg => some (.text msg)

/-- What the script printed on stdout. -/
def CmdResult.stdout : CmdResult → String
  | .exited _ out => out
  | .failed _ => ""

/-- `isCommandNotFound`: an `*exec.ExitError` whose exit status is 127. -/
def isCommandNotFound : Error → Bool
  | .exitError status => status == 127
  | _ => false

/-- `trySetKernelParam`, given what `cmd.Run()` of the script reported for the parameter: whether
the node needs a reboot, and the error returned. -/
def trySetKernelParam (run : CmdResult) : Bool × Option Error :=
  match run.err with
  | some err => if isCommandNotFound err then (false, none) else (false, some err)
  | none =>
    match atoi (trimSpace run.stdout) with
    | .ok i => if i > 0 then (true, none) else (false, none)
    | .error err => (false, some err)

/-! ## What a run reports -/

/-- The script exited 0 and printed a positive decimal integer. -/
def ReportsReboot (run : CmdResult) : Prop :=
  ∃ out i, run = .exited 0 out ∧ atoi (trimSpace out) = .ok i ∧ 0 < i

/-- The script exited 0 and printed a decimal integer, or exited 127. -/
def SetterWellBehaved (run : CmdResult) : Prop :=
  (∃ out i, run = .exited 0 out ∧ atoi (trimSpace out) = .ok i) ∨ ∃ out, run = .exited 127 out

/-- The run is a failure of the setter: the command did not run, exited with a status other than
0 and 127, or exited 0 printing something `strconv.Atoi` rejects. -/
def SetterFails : CmdResult → Prop
  | .exited status out =>
    (status ≠ 0 ∧ status ≠ 127) ∨ (status = 0 ∧ ∀ i, atoi (trimSpace out) ≠ .ok i)
  | .failed _ => True

theorem trySetKernelParam_reboot_iff (run : CmdResult) :
    (trySetKernelParam run).1 = true ↔ ReportsReboot run := by
  unfold trySetKernelParam ReportsReboot
  cases run with
  | failed msg =>
    simp only [CmdResult.err, isCommandNotFound, Bool.false_eq_true, ↓reduceIte, reduceCtorEq,
      false_and, exists_const]
  | exited status out =>
    by_cases h0 : status = 0
    · subst h0
      cases h : atoi (trimSpace out) with
      | error e =>
        simp only [CmdResult.err, ↓reduceIte, CmdResult.stdout, h, Bool.false_eq_true,
          CmdResult.exited.injEq, true_and, exists_and_left, exists_eq_left', reduceCtorEq, false_and,
          exists_const]
      | ok i =>
        by_cases hi : 0 < i <;>
          simp only [CmdResult.err, ↓reduceIte, CmdResult.stdout, h, gt_iff_lt, hi, Bool.false_eq_true,
            CmdResult.exited.injEq, true_and, exists_and_left, exists_eq_left', Except.ok.injEq]
    · simp only [CmdResult.err, h0, ↓reduceIte, CmdResult.exited.injEq, false_and, exists_const,
        iff_false, Bool.not_eq_true]
      split <;> rfl

theorem trySetKernelParam_err_iff (run : CmdResult) :
    (trySetKernelParam run).2.isSome ↔ SetterFails run := by
  unfold trySetKernelParam SetterFails
  cases run with
  | failed msg => simp [CmdResult.err, isCommandNotFound]
  | exited status out =>
    by_cases h0 : status = 0
    · subst h0
      cases h : atoi (trimSpace out) <;> simp [CmdResult.err, CmdResult.stdout, h]
      split <;> simp
    · by_cases h127 : status = 127
      · subst h127
        simp [CmdResult.err, isCommandNotFound]
      · simp [CmdResult.err, isCommandNotFound, h0, h127]

/-- A well-behaved run returns no error. -/
theorem trySetKernelParam_err_of_wellBehaved {run : CmdResult} (h : SetterWellBehaved run) :
    (trySetKernelParam run).2 = none := by
  rcases h with ⟨out, i, rfl, hi⟩ | ⟨out, rfl⟩
  · simp [trySetKernelParam, CmdResult.err, CmdResult.stdout, hi]
    split <;> rfl
  · simp [trySetKernelParam, CmdResult.err, isCommandNotFound]

example : trySetKernelParam (.exited 0 "1\n") = (true, none) := by decide
example : trySetKernelParam (.exited 0 " -3 ") = (false, none) := by decide
example : trySetKernelParam (.exited 0 "done") = (false, some (.numError "done")) := by decide

/-! ## Reading back a printed number

The script reports how many kernel arguments it changed by printing the number.  `Nat.toDigits`
with enough fuel is a nonempty list of decimal digits whose value is the number
(`toDigitsCore_spec`), so `strconv.Atoi` reads back what `toString` prints (`atoi_toString`), and
`strings.TrimSpace` removes the newline after it: a setter run that prints an `int` asks for a reboot
exactly when the number is positive (`trySetKernelParam_printed`). -/

theorem digitChar_isDigit : ∀ n < 10, (Nat.digitChar n).isDigit = true := by decide

theorem digitChar_value : ∀ n < 10, (Nat.digitChar n).toNat - '0'.toNat = n := by decide

theorem digitChar_not_isSpace : ∀ n < 10, isSpace (Nat.digitChar n) = false := by decide

/-- One digit of `Nat.toDigits`: the last digit goes in front of those already printed. -/
theorem toDigitsCore_succ (fuel n : Nat) (ds : List Char) :
    Nat.toDigitsCore 10 (fuel + 1) n ds =
      if n / 10 = 0 then Nat.digitChar (n % 10) :: ds
      else Nat.toDigitsCore 10 fuel (n / 10) (Nat.digitChar (n % 10) :: ds) := rfl

theorem toDigitsCore_append (fuel n : Nat) (ds : List Char) :
    Nat.toDigitsCore 10 fuel n ds = Nat.toDigitsCore 10 fuel n [] ++ ds := by
  induction fuel generalizing n ds with
  | zero => rfl
  | succ fuel ih =>
    simp only [toDigitsCore_succ]
    split
    · rfl
    · rw [ih _ (_ :: ds), ih _ [_]]
      simp

theorem digitsValue_append_singleton (ds : List Char) (d : Char) :
    digitsValue (ds ++ [d]) = 10 * digitsValue ds + (d.toNat - '0'.toNat) := by
  simp [digitsValue, List.foldl_append]

/-- `Nat.toDigits`, with enough fuel, is a nonempty list of decimal digits whose value is the
number. -/
theorem toDigitsCore_spec (fuel n : Nat) (h : n < fuel) :
    Nat.toDigitsCore 10 fuel n [] ≠ [] ∧
    (∀ d ∈ Nat.toDigitsCore 10 fuel n [], d.isDigit = true ∧ isSpace d = false) ∧
    digitsValue (Nat.toDigitsCore 10 fuel n []) = n := by
  induction fuel generalizing n with
  | zero => omega
  | succ fuel ih =>
    have hd := Nat.mod_lt n (show 10 > 0 by decide)
    simp only [toDigitsCore_succ]
    split
    · next h0 =>
      refine ⟨List.cons_ne_nil _ _, by simp [digitChar_isDigit _ hd, digitChar_not_isSpace _ hd], ?_⟩
      show 10 * 0 + ((n % 10).digitChar.toNat - '0'.toNat) = n
      rw [digitChar_value _ hd]
      omega
    · next h0 =>
      obtain ⟨hne, hall, hval⟩ := ih (n / 10) (by omega)
      rw [toDigitsCore_append]
      refine ⟨by simp, ?_, ?_⟩
      · intro d hd'
        rcases List.mem_append.1 hd' with h' | h'
        · exact hall d h'
        · rw [List.mem_singleton.1 h']
          exact ⟨digitChar_isDigit _ hd, digitChar_not_isSpace _ hd⟩
      · rw [digitsValue_append_singleton, hval, digitChar_value _ hd]
        omega

/-- `strconv.Atoi` reads an unsigned list of digits as its value, in the range of `int`. -/
theorem atoi_digits {ds : List Char} (hne : ds ≠ []) (hall : ∀ d ∈ ds, d.isDigit = true)
    (h : (digitsValue ds : Int) < 2 ^ 63) : atoi ⟨ds⟩ = .ok (digitsValue ds) := by
  obtain ⟨d, rest, rfl⟩ := List.exists_cons_of_ne_nil hne
  have hd := hall d (List.mem_cons_self _ _)
  have hm : d ≠ '-' := by rintro rfl; exact absurd hd (by decide)
  have hp : d ≠ '+' := by rintro rfl; exact absurd hd (by decide)
  unfold atoi
  split
  next neg digits hsign =>
  split at hsign
  · next ds heq => exact absurd (List.cons.inj heq).1 hm
  · next ds heq => exact absurd (List.cons.inj heq).1 hp
  · obtain ⟨rfl, rfl⟩ := Prod.mk.inj hsign
    simp only [String.toList, Bool.false_eq_true, if_false]
    exact if_pos ⟨List.cons_ne_nil _ _, List.all_eq_true.2 hall, by omega, h⟩

/-- `strconv.Atoi` reads a `-` and a list of digits as the negated value, in the range of `int`. -/
theorem atoi_neg_digits {ds : List Char} (hne : ds ≠ []) (hall : ∀ d ∈ ds, d.isDigit = true)
    (h : (digitsValue ds : Int) ≤ 2 ^ 63) : atoi ⟨'-' :: ds⟩ = .ok (-(digitsValue ds : Int)) := by
  unfold atoi
  split
  next neg digits hsign =>
  split at hsign
  · next ds' heq =>
    obtain ⟨rfl, rfl⟩ := Prod.mk.inj hsign
    obtain rfl := (List.cons.inj heq).2
    simp only [if_true]
    exact if_pos ⟨hne, List.all_eq_true.2 hall, by omega, by omega⟩
  · next ds' heq => exact absurd (List.cons.inj heq).1 (by decide)
  · next hm _ => exact absurd rfl (hm ds)

/-- The characters `toString` prints for an `Int`: a nonempty list, with no white space. -/
theorem toString_int_chars (i : Int) :
    (toString i).toList ≠ [] ∧ ∀ c ∈ (toString i).toList, isSpace c = false := by
  cases i with
  | ofNat m =>
    obtain ⟨hne, hall, -⟩ := toDigitsCore_spec (m + 1) m (Nat.lt_succ_self m)
    exact ⟨hne, fun c hc => (hall c hc).2⟩
  | negSucc m =>
    obtain ⟨-, hall, -⟩ := toDigitsCore_spec (m + 2) (m + 1) (by omega)
    refine ⟨List.cons_ne_nil _ _, fun c hc => ?_⟩
    rcases List.mem_cons.1 hc with rfl | hc
    exacts [rfl, (hall c hc).2]

/-- **`strconv.Atoi` reads back what `toString` prints**, for every `Int` in the range of `int`. -/
theorem atoi_toString (i : Int) (h₁ : -2 ^ 63 ≤ i) (h₂ : i < 2 ^ 63) : atoi (toString i) = .ok i := by
  cases i with
  | ofNat m =>
    rw [Int.ofNat_eq_coe] at h₂
    obtain ⟨hne, hall, hval⟩ := toDigitsCore_spec (m + 1) m (Nat.lt_succ_self m)
    have := atoi_digits hne (fun d hd => (hall d hd).1) (by rw [hval]; omega)
    rwa [hval] at this
  | negSucc m =>
    rw [Int.negSucc_eq] at h₁
    obtain ⟨hne, hall, hval⟩ := toDigitsCore_spec (m + 2) (m + 1) (by omega)
    have := atoi_neg_digits hne (fun d hd => (hall d hd).1) (by rw [hval]; omega)
    rwa [hval] at this

theorem dropWhile_isSpace_of_forall {l : List Char} (h : ∀ c ∈ l, isSpace c = false) :
    l.dropWhile isSpace = l := by
  cases l with
  | nil => rfl
  | cons c l => exact List.dropWhile_cons_of_neg (by simp [h c (List.mem_cons_self _ _)])

/-- `strings.TrimSpace` drops the newline after a word with no white space. -/
theorem trimSpace_append_newline {s : String} (hne : s.toList ≠ [])
    (hs : ∀ c ∈ s.toList, isSpace c = false) : trimSpace (s ++ "\n") = s := by
  obtain ⟨l⟩ := s
  obtain ⟨c, l, rfl⟩ := List.exists_cons_of_ne_nil hne
  have hc : isSpace c = false := hs c (List.mem_cons_self _ _)
  have hrev : ∀ d ∈ (c :: l).reverse, isSpace d = false := fun d hd => hs d (List.mem_reverse.1 hd)
  show (⟨((List.dropWhile isSpace (c :: (l ++ ['\n']))).reverse.dropWhile isSpace).reverse⟩ : String) =
    ⟨c :: l⟩
  rw [List.dropWhile_cons_of_neg (by simp [hc]), ← List.cons_append, List.reverse_append,
    List.reverse_singleton, List.singleton_append, List.dropWhile_cons_of_pos (by decide),
    dropWhile_isSpace_of_forall hrev, List.reverse_reverse]

/-- **The script's printed count is read back.**  A setter run that exits 0 after printing an `int`
and a newline returns no error, and asks for a reboot exactly when the number is positive. -/
theorem trySetKernelParam_printed (i : Int) (h₁ : -2 ^ 63 ≤ i) (h₂ : i < 2 ^ 63) :
    trySetKernelParam (.exited 0 (toString i ++ "\n")) = (decide (0 < i), none) := by
  have ht := trimSpace_append_newline (toString_int_chars i).1 (toString_int_chars i).2
  simp only [trySetKernelParam, CmdResult.err, CmdResult.stdout, if_true, ht, atoi_toString i h₁ h₂]
  split_ifs with hi <;> simp [hi]

/-- A script that prints `2`: the run returns no error and asks for a reboot. -/
theorem trySetKernelParam_printed_two :
    -2 ^ 63 ≤ (2 : Int) ∧ (2 : Int) < 2 ^ 63 ∧
      trySetKernelParam (.exited 0 (toString (2 : Int) ++ "\n")) = (true, none) :=
  ⟨by decide, by decide, trySetKernelParam_printed 2 (by decide) (by decide)⟩

end Generic
