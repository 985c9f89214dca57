import SriovGeneric.Types

/-!
# `needDrainNode`

Both versions of the plugin decide whether the node must be drained with the same `needDrainNode`:
for every observed interface, a scan of the desired ones by PCI address that stops at the first
match when the interface has no VFs and returns a drain as soon as a match needs an update; after
the scan, an interface with VFs that no desired interface matched asks for a drain too.

The early exits do not matter for the answer, which is a property of each observed interface on
its own (`drainsFor`), whatever the order of either list:

    needDrainNode_eq_any : needDrainNode c desired current = current.any (drainsFor c desired)
    needDrainNode_iff    : the characterisation, order independence, entries without VFs
-/

namespace Generic

/-- The inner loop of `needDrainNode` over the desired interfaces for one observed interface,
from the value of `configured` so far: `(true, _)` when it returns a drain, otherwise `(false,
configured)`. -/
def needDrainScan (c : Consts) (ifaceStatus : InterfaceExt) :
    List Interface → Bool → Bool × Bool
  | [], configured => (false, configured)
  | iface :: desired, configured =>
    if iface.pciAddress = ifaceStatus.pciAddress then
      if ifaceStatus.numVfs = 0 then (false, true)
      else if c.needUpdate iface ifaceStatus then (true, true)
      else needDrainScan c ifaceStatus desired true
    else needDrainScan c ifaceStatus desired configured

/-- `needDrainNode(desired, current)`. -/
def needDrainNode (c : Consts) (desired : List Interface) : List InterfaceExt → Bool
  | [] => false
  | ifaceStatus :: current =>
    match needDrainScan c ifaceStatus desired false with
    | (true, _) => true
    | (false, configured) =>
      if !configured && ifaceStatus.numVfs > 0 then true
      else needDrainNode c desired current

/-- Whether one observed interface asks for a drain: it has VFs and no desired interface has its
address, or it has VFs and a desired interface at its address needs an update. -/
def drainsFor (c : Consts) (desired : List Interface) (s : InterfaceExt) : Bool :=
  (0 < s.numVfs && !desired.any (·.pciAddress = s.pciAddress)) ||
    (s.numVfs ≠ 0 && desired.any fun d => d.pciAddress = s.pciAddress && c.needUpdate d s)

theorem needDrainScan_eq (c : Consts) (s : InterfaceExt) (desired : List Interface)
    (configured : Bool) :
    needDrainScan c s desired configured =
      (s.numVfs ≠ 0 && desired.any fun d => d.pciAddress = s.pciAddress && c.needUpdate d s,
        configured || desired.any (·.pciAddress = s.pciAddress)) := by
  induction desired generalizing configured with
  | nil => simp [needDrainScan]
  | cons d desired ih =>
    by_cases hpci : d.pciAddress = s.pciAddress
    · by_cases h0 : s.numVfs = 0
      · simp [needDrainScan, hpci, h0]
      · by_cases hu : c.needUpdate d s <;> simp [needDrainScan, hpci, h0, hu, ih]
    · simp [needDrainScan, hpci, ih]

theorem needDrainNode_eq_any (c : Consts) (desired : List Interface) (current : List InterfaceExt) :
    needDrainNode c desired current = current.any (drainsFor c desired) := by
  induction current with
  | nil => rfl
  | cons s current ih =>
    rw [List.any_cons, ← ih, needDrainNode, needDrainScan_eq]
    unfold drainsFor
    by_cases h0 : s.numVfs = 0 <;>
      cases desired.any fun d => d.pciAddress = s.pciAddress && c.needUpdate d s <;>
      cases desired.any (·.pciAddress = s.pciAddress) <;> simp [h0]

theorem needDrainNode_iff (c : Consts) (desired : List Interface) (current : List InterfaceExt) :
    (needDrainNode c desired current = true ↔
      ∃ s ∈ current, (0 < s.numVfs ∧ ∀ d ∈ desired, d.pciAddress ≠ s.pciAddress) ∨
        (s.numVfs ≠ 0 ∧ ∃ d ∈ desired, d.pciAddress = s.pciAddress ∧ c.needUpdate d s = true)) ∧
    (∀ desired' current', desired'.Perm desired → current'.Perm current →
      needDrainNode c desired' current' = needDrainNode c desired current) ∧
    needDrainNode c desired (current.filter (·.numVfs ≠ 0)) = needDrainNode c desired current := by
  have hiff : ∀ desired current, needDrainNode c desired current = true ↔
      ∃ s ∈ current, (0 < s.numVfs ∧ ∀ d ∈ desired, d.pciAddress ≠ s.pciAddress) ∨
        (s.numVfs ≠ 0 ∧ ∃ d ∈ desired, d.pciAddress = s.pciAddress ∧ c.needUpdate d s = true) := by
    intro desired current
    simp only [needDrainNode_eq_any, List.any_eq_true, drainsFor, ne_eq, decide_not, Bool.or_eq_true,
      Bool.and_eq_true, decide_eq_true_eq, Bool.not_eq_eq_eq_not, Bool.not_true, List.any_eq_false,
      decide_eq_false_iff_not]
  refine ⟨hiff desired current, fun desired' current' hd hc => ?_, ?_⟩
  · refine Bool.eq_iff_iff.2 ((hiff _ _).trans (Iff.trans ?_ (hiff _ _).symm))
    simp only [hc.mem_iff, hd.mem_iff]
  · rw [needDrainNode_eq_any, needDrainNode_eq_any, List.any_filter]
    congr 1
    funext s
    by_cases h0 : s.numVfs = 0 <;>
      simp only [drainsFor, h0, ne_eq, not_true_eq_false, not_false_eq_true, decide_False,
        decide_True, Int.lt_irrefl, Bool.false_and, Bool.true_and, Bool.or_self, Bool.and_self]

/-- A PF with VFs that no desired interface lists drains the node, also beside a PF without VFs. -/
theorem needDrainNode_unlisted_pf :
    let c := Consts.upstream
    needDrainNode c [] [⟨"0000:3b:00.0", 4⟩] = true ∧
      needDrainNode c [] [⟨"0000:5e:00.0", 0⟩, ⟨"0000:3b:00.0", 4⟩] = true := by
  intro c
  have h := needDrainNode_iff c [] [⟨"0000:3b:00.0", 4⟩]
  have hd : needDrainNode c [] [⟨"0000:3b:00.0", 4⟩] = true :=
    h.1.2 ⟨_, List.mem_singleton_self _, .inl ⟨by decide, fun _ h => absurd h (List.not_mem_nil _)⟩⟩
  refine ⟨hd, ?_⟩
  rw [← (needDrainNode_iff c [] [⟨"0000:5e:00.0", 0⟩, ⟨"0000:3b:00.0", 4⟩]).2.2]
  exact hd

end Generic
