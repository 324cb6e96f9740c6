import KonnectFapi.Source.Deck.Approval

/-!
# What an accepted receipt says

Source: scripts/run-deck.py:309-362. A receipt that is accepted is bound to what was read with
it, and to exactly one of the reviewed plans.
-/

namespace KonnectFapi.Source.Deck
open Lib Lib.Json
open Migration (isHexDigest isHexJson isText)
open RuntimeDiff (member isCount)

/-! ## The scope -/

theorem planned_nodup (plan : PlanType) (op : RuntimeDiff.Operation) : (planned plan op).Nodup := by
  cases plan <;> cases op <;> decide +kernel

/-- The identities of one operation, in the order in which they are reported. -/
def reviewed (plan : PlanType) (op : RuntimeDiff.Operation) : List (Text × Text) :=
  sortOn toLex (planned plan op)

/-- Operations that are exactly those of a plan. -/
def ListsPlan (plan : PlanType) (operations : Json) : Prop :=
  ∃ actual, operations = .obj actual ∧ ∀ op : RuntimeDiff.Operation, ∃ entries,
    member actual op.name = some (.arr entries) ∧ entries.mapM readLabel = some (reviewed plan op)

theorem eq_sorted_of_same {expected identities : List (Text × Text)} (distinct : expected.Nodup)
    (length : identities.length = expected.length) (all : ∀ identity ∈ expected, identity ∈ identities)
    (sorted : sortOn toLex identities = identities) : identities = sortOn toLex expected := by
  have perm : expected.Perm identities :=
    (List.subperm_of_subset distinct all).perm_of_length_le (Nat.le_of_eq length)
  rw [← sorted]
  exact (sortOn_eq_of_perm perm (distinct.map toLex.injective)).symm

theorem checkOperation_eq_ok {plan : PlanType} {actual : Dict} {op : RuntimeDiff.Operation} {u : Unit}
    (h : checkOperation plan actual op = .ok u) : ∃ entries,
      member actual op.name = some (.arr entries) ∧ entries.mapM readLabel = some (reviewed plan op) := by
  unfold checkOperation at h
  dsimp only at h
  split at h
  · rename_i entries hentries
    split at h
    · rename_i identities hidentities
      have hsame := require_eq_ok.mp h
      simp only [Bool.and_eq_true, beq_iff_eq, List.all_eq_true, List.contains_iff_mem] at hsame
      obtain ⟨⟨⟨hlength, -⟩, hall⟩, hsorted⟩ := hsame
      refine ⟨entries, hentries, ?_⟩
      rw [hidentities, eq_sorted_of_same (planned_nodup plan op) hlength hall hsorted]
      rfl
    · cases h
  · cases h

theorem validateBackendScope_eq_ok {summary operations planType : Json} {plan : PlanType}
    (h : validateBackendScope summary operations planType = .ok plan) :
    planType = .str (text plan.name) ∧ ListsPlan plan operations := by
  unfold validateBackendScope at h
  dsimp only at h
  split at h
  · rename_i name
    split at h
    · rename_i found hfound
      split at h
      · rename_i actual
        obtain ⟨-, h⟩ := require_bind.mp h
        obtain ⟨_, hoperations, h⟩ := bind_eq_ok.mp h
        split at h
        · obtain ⟨-, h⟩ := require_bind.mp h
          obtain rfl := Except.ok.inj h
          have hname := List.find?_some hfound
          rw [beq_iff_eq] at hname
          refine ⟨by rw [hname], actual, rfl, ?_⟩
          intro op
          have checked := forM_eq_ok.mp hoperations op (RuntimeDiff.Operation.mem_all op)
          exact checkOperation_eq_ok checked
        · cases h
      · cases h
    · cases h
  · cases h

/-! ## The receipt -/

/-- A receipt that approves a sync of this target, with this state and these role inputs. -/
structure Approves (x : Libraries) (bound : Bound) (state : Bytes) (receipt : Json) : Prop where
  version : isCount (receipt.get? (text "schema_version")) 2 = true
  scope : isText (receipt.get? (text "scope")) (text "third-party-backend-runtime-v2") = true
  approved : isTrueJson (receipt.get? (text "approved")) = true
  target : isText (receipt.get? (text "target_sha256")) (x.canonicalSha256 bound.target) = true
  state : isText (receipt.get? (text "state_sha256")) (x.sha256 state) = true
  roleInputs :
    isText (receipt.get? (text "role_inputs_sha256")) (x.canonicalSha256 bound.roleValues) = true
  diff : isHexJson (receipt.get? (text "diff_sha256")) = true
  plan : ∃ plan : PlanType, receipt.get? (text "plan_type") = some (.str (text plan.name)) ∧
    ∃ operations, receipt.get? (text "operations") = some operations ∧ ListsPlan plan operations

theorem some_of_receiptMember {found : Dict} {name : String} {v : Json} (h : receiptMember found name = v)
    (hv : v ≠ .null) : member found name = some v := by
  unfold receiptMember at h
  cases hmember : member found name with
  | none =>
    rw [hmember] at h
    exact absurd h.symm hv
  | some w =>
    rw [hmember] at h
    exact congrArg some h

theorem readBackendRuntimeApproval_eq_ok {x : Libraries} {files : BackendFiles} {bound : Bound}
    {receipt : Json} (h : readBackendRuntimeApproval x files bound = .ok receipt) :
    ∃ state, files.state = some state ∧ Approves x bound state receipt := by
  unfold readBackendRuntimeApproval at h
  dsimp only at h
  obtain ⟨-, h⟩ := require_bind.mp h
  split at h
  · split at h
    · split at h
      · rename_i found
        obtain ⟨-, h⟩ := require_bind.mp h
        obtain ⟨hscope, h⟩ := require_bind.mp h
        split at h
        · rename_i state hstate
          obtain ⟨hbound, h⟩ := require_bind.mp h
          obtain ⟨hdiff, h⟩ := require_bind.mp h
          obtain ⟨plan, hplan, h⟩ := bind_eq_ok.mp h
          obtain rfl := Except.ok.inj h
          simp only [Bool.and_eq_true] at hscope hbound
          obtain ⟨hname, operations⟩ := validateBackendScope_eq_ok hplan
          refine ⟨state, hstate, hscope.1.1, hscope.1.2, hscope.2, hbound.1.1, hbound.1.2, hbound.2, hdiff,
            plan, ?_, ?_⟩
          · exact some_of_receiptMember hname (by simp)
          · obtain ⟨actual, hactual, hentries⟩ := operations
            exact ⟨_, some_of_receiptMember hactual (by simp), actual, rfl, hentries⟩
        · cases h
      · cases h
    · cases h
  · cases h

end KonnectFapi.Source.Deck
