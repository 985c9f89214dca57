import SriovGeneric.Host
import Mathlib.Data.List.AList

/-!
# The ledger of desired kernel parameters

`DesiredKernelParams map[string]uint` holds each kernel parameter queued for the node with the
number of attempts made so far to set it.  The Go map is an `AList` (its keys are distinct by
construction); a `range` over it visits its entries in some `RangeOrder`.
`addToDesiredKernelParams` queues a parameter with no attempts unless it is queued already, and
`incrementAttempts` is `m[kparam]++` (a missing key reads 0; `uint` wraps at `2 ^ 64`).

A pass over the ledger visits a permutation of its entries and increments only the key it visits,
so every entry still to visit keeps its value: `Pending` says so, and `Pending.increment` carries it
through one visit.  `lookup_visit_skip` and `lookup_visit_increment` say how one visit extends the
counters a pass over the rest raised.  `FullPass` says what a pass that visited every key did.
-/

namespace Generic

/-- `DesiredKernelParams`. -/
abbrev KernelParams := AList fun _ : String => UInt64

/-- An entry of the ledger, as a `range` over it yields them. -/
abbrev KernelParam := Σ _ : String, UInt64

/-- `addToDesiredKernelParams`: queue `kparam` with no attempts, unless it is queued already. -/
def addToDesiredKernelParams (kparam : String) (m : KernelParams) : KernelParams :=
  if kparam ∈ m then m else m.insert kparam 0

/-- `p.DesiredKernelParams[kparam]++`. -/
def incrementAttempts (kparam : String) (m : KernelParams) : KernelParams :=
  m.insert kparam ((m.lookup kparam).getD 0 + 1)

section
variable {k kparam : String} {m : KernelParams}

theorem addToDesiredKernelParams_of_mem (h : kparam ∈ m) : addToDesiredKernelParams kparam m = m :=
  if_pos h

@[simp] theorem mem_addToDesiredKernelParams :
    k ∈ addToDesiredKernelParams kparam m ↔ k = kparam ∨ k ∈ m := by
  by_cases h : kparam ∈ m
  · rw [addToDesiredKernelParams_of_mem h]
    exact ⟨.inr, by rintro (rfl | h'); exacts [h, h']⟩
  · simp [addToDesiredKernelParams, h, AList.mem_insert]

/-- Queueing never changes the attempts of a parameter already queued. -/
theorem lookup_addToDesiredKernelParams_of_mem (h : k ∈ m) :
    (addToDesiredKernelParams kparam m).lookup k = m.lookup k := by
  unfold addToDesiredKernelParams
  split
  · rfl
  · rw [AList.lookup_insert_ne]
    rintro rfl
    contradiction

theorem lookup_addToDesiredKernelParams_of_not_mem (h : kparam ∉ m) :
    (addToDesiredKernelParams kparam m).lookup kparam = some 0 := by
  simp [addToDesiredKernelParams, h, AList.lookup_insert]

/-- Queueing gives a new parameter no attempts: the attempts read through `getD 0` are unchanged. -/
theorem attempts_addToDesiredKernelParams :
    ((addToDesiredKernelParams kparam m).lookup k).getD 0 = (m.lookup k).getD 0 := by
  by_cases hk : k ∈ m
  · rw [lookup_addToDesiredKernelParams_of_mem hk]
  · unfold addToDesiredKernelParams
    split
    · rfl
    · by_cases hkk : k = kparam
      · subst hkk
        simp [AList.lookup_insert, AList.lookup_eq_none.2 hk]
      · rw [AList.lookup_insert_ne hkk]

theorem lookup_addToDesiredKernelParams {v : UInt64}
    (h : (addToDesiredKernelParams kparam m).lookup k = some v) : m.lookup k = some v ∨ v = 0 := by
  unfold addToDesiredKernelParams at h
  split at h
  · exact .inl h
  · by_cases hkk : k = kparam
    · subst hkk
      simp [AList.lookup_insert] at h
      exact .inr h.symm
    · exact .inl (by rwa [AList.lookup_insert_ne hkk] at h)

@[simp] theorem mem_incrementAttempts : k ∈ incrementAttempts kparam m ↔ k = kparam ∨ k ∈ m :=
  AList.mem_insert _

@[simp] theorem lookup_incrementAttempts_self :
    (incrementAttempts kparam m).lookup kparam = some ((m.lookup kparam).getD 0 + 1) :=
  AList.lookup_insert _

theorem lookup_incrementAttempts_ne (h : k ≠ kparam) :
    (incrementAttempts kparam m).lookup k = m.lookup k :=
  AList.lookup_insert_ne h

/-- `m[kparam]++` read back as a number: the `uint` counter wraps at `2 ^ 64`. -/
theorem attempts_incrementAttempts :
    (((incrementAttempts kparam m).lookup k).getD 0).toNat =
      (((m.lookup k).getD 0).toNat + if kparam = k then 1 else 0) % 2 ^ 64 := by
  by_cases h : kparam = k
  · subst h
    rw [lookup_incrementAttempts_self, Option.getD_some, if_pos rfl]
    simp only [UInt64.toNat, UInt64.add_def, BitVec.toNat_add]
    rfl
  · rw [lookup_incrementAttempts_ne (Ne.symm h), if_neg h, Nat.add_zero]
    exact (Nat.mod_eq_of_lt ((m.lookup k).getD 0).toBitVec.isLt).symm

end

/-! ## Passes over the ledger -/

/-- The entries `l` still to visit are entries of `m`, with distinct keys. -/
def Pending (m : KernelParams) (l : List KernelParam) : Prop :=
  (l.map Sigma.fst).Nodup ∧ ∀ e ∈ l, m.lookup e.1 = some e.2

/-- A `range` starts with every entry of the ledger still to visit. -/
theorem pending_of_perm {m : KernelParams} {l : List KernelParam} (h : l.Perm m.entries) :
    Pending m l := by
  refine ⟨(h.map Sigma.fst).nodup_iff.2 m.nodupKeys, fun e he => ?_⟩
  exact AList.mem_lookup_iff.2 (h.mem_iff.1 he)

/-- A `range` in any order visits exactly the keys of the ledger. -/
theorem mem_map_fst_arrange (order : RangeOrder KernelParam) (m : KernelParams) (k : String) :
    k ∈ (order.arrange m.entries).map Sigma.fst ↔ k ∈ m :=
  ((order.perm m.entries).map Sigma.fst).mem_iff

/-- A `range` in any order yields each key with its value. -/
theorem mem_arrange_iff (order : RangeOrder KernelParam) (m : KernelParams) (e : KernelParam) :
    e ∈ order.arrange m.entries ↔ m.lookup e.1 = some e.2 :=
  (order.perm m.entries).mem_iff.trans AList.mem_lookup_iff.symm

theorem Pending.lookup_head {m : KernelParams} {e : KernelParam} {l : List KernelParam}
    (h : Pending m (e :: l)) : m.lookup e.1 = some e.2 :=
  h.2 e (List.mem_cons_self _ _)

theorem Pending.tail {m : KernelParams} {e : KernelParam} {l : List KernelParam}
    (h : Pending m (e :: l)) : Pending m l :=
  ⟨(List.nodup_cons.1 h.1).2, fun e' he' => h.2 e' (List.mem_cons_of_mem _ he')⟩

/-- Incrementing the visited key keeps the rest of the pass pending. -/
theorem Pending.increment {m : KernelParams} {e : KernelParam} {l : List KernelParam}
    (h : Pending m (e :: l)) : Pending (incrementAttempts e.1 m) l := by
  refine ⟨h.tail.1, fun e' he' => ?_⟩
  have hne : e'.1 ≠ e.1 := by
    rintro heq
    exact (List.nodup_cons.1 h.1).1 (heq ▸ List.mem_map_of_mem _ he')
  rw [lookup_incrementAttempts_ne hne]
  exact h.tail.2 e' he'

/-- A ledger whose counters are those of `m`, some of them raised, has the keys of `m`. -/
theorem mem_iff_of_lookup {s m : KernelParams} {p : String → Prop} [DecidablePred p]
    (h : ∀ k, s.lookup k = if p k then (m.lookup k).map (· + 1) else m.lookup k) (k : String) :
    k ∈ s ↔ k ∈ m := by
  rw [← AList.lookup_isSome, ← AList.lookup_isSome, h]
  split_ifs <;> simp only [Option.isSome_map', iff_self]

section
variable {β : Type} {m : KernelParams} {kparam k : String} {visited : List String}
  (due : String → Prop) [DecidablePred due]

/-- A visit of a parameter that is not due adds nothing to what a pass over the other keys did. -/
theorem lookup_visit_skip (hdue : ¬ due kparam) (x y : β) :
    (if k ∈ visited ∧ due k then x else y) = if k ∈ kparam :: visited ∧ due k then x else y :=
  if_congr ⟨fun h => ⟨List.mem_cons_of_mem _ h.1, h.2⟩, fun ⟨h, hd⟩ =>
    ⟨(List.mem_cons.1 h).resolve_left fun hk => hdue (hk ▸ hd), hd⟩⟩ rfl rfl

/-- A visit that raises a due parameter's counter, then a pass over other keys that raises the due
ones, raises the counters of all the due keys visited. -/
theorem lookup_visit_increment {a : UInt64} (hk : m.lookup kparam = some a)
    (hnot : kparam ∉ visited) (hdue : due kparam) :
    (if k ∈ visited ∧ due k then ((incrementAttempts kparam m).lookup k).map (· + 1)
      else (incrementAttempts kparam m).lookup k) =
    if k ∈ kparam :: visited ∧ due k then (m.lookup k).map (· + 1) else m.lookup k := by
  by_cases hkk : k = kparam
  · subst hkk
    simp only [hnot, false_and, if_false, lookup_incrementAttempts_self, hk, Option.getD_some,
      List.mem_cons_self, hdue, and_self, if_true, Option.map_some']
  · simp only [lookup_incrementAttempts_ne hkk, List.mem_cons, hkk, false_or]

/-- A visit that runs the setter for a due parameter, then a pass over other keys that runs it once
for each due one, runs it once for each due key visited. -/
theorem runs_visit_increment (hnot : kparam ∉ visited) (hdue : due kparam) :
    (if k ∈ visited ∧ due k then 1 else 0) + (if kparam = k then 1 else 0) =
      if k ∈ kparam :: visited ∧ due k then 1 else 0 := by
  by_cases hkk : k = kparam
  · subst hkk
    simp only [hnot, false_and, if_false, List.mem_cons_self, hdue, and_self, if_true]
  · simp only [List.mem_cons, hkk, false_or, Ne.symm hkk, if_false, Nat.add_zero]

end

/-! ## A full pass -/

/-- What a pass over every key of the ledger `m` did, given which parameters are `due`: it kept the
keys of `m`, raised the counter of each due parameter by one and left every other counter as it
was, ran the setter once for each due parameter and for no other, and reports a reboot exactly when
the setter's run for a due parameter asked for one. -/
structure FullPass (m : KernelParams) (due : String → Prop) [DecidablePred due]
    (setter : String → CmdResult) (state : KernelParams) (calls : List Call) (reboot : Bool) :
    Prop where
  keys : ∀ k, k ∈ state ↔ k ∈ m
  lookup : ∀ k, state.lookup k = if k ∈ m ∧ due k then (m.lookup k).map (· + 1) else m.lookup k
  runs : ∀ k, scriptRuns k calls = if k ∈ m ∧ due k then 1 else 0
  reboot_iff : reboot = true ↔ ∃ k ∈ m, due k ∧ (trySetKernelParam (setter k)).1 = true

/-- The keys of a `FullPass` follow from its counters. -/
theorem FullPass.of_lookup {m : KernelParams} {due : String → Prop} [DecidablePred due]
    {setter : String → CmdResult} {state : KernelParams} {calls : List Call} {reboot : Bool}
    (hlookup : ∀ k, state.lookup k =
      if k ∈ m ∧ due k then (m.lookup k).map (· + 1) else m.lookup k)
    (hruns : ∀ k, scriptRuns k calls = if k ∈ m ∧ due k then 1 else 0)
    (hreboot : reboot = true ↔ ∃ k ∈ m, due k ∧ ReportsReboot (setter k)) :
    FullPass m due setter state calls reboot where
  keys := mem_iff_of_lookup hlookup
  lookup := hlookup
  runs := hruns
  reboot_iff := by simpa only [trySetKernelParam_reboot_iff] using hreboot

end Generic
