import SuuqBackend.Common.Laws.TextNumbers
import SuuqBackend.Lib.TextKeys
import SuuqBackend.PosWorkspace.PosWorkspaceActivation

/-!
# The references of workspace payments, read back

A reference is a label and numbers between dashes.  What `parseBranchIdFromReference` and `parseBranchCreationReference`
find in a reference are the numbers that it was made of (`parse_activationReference_eq`,
`parse_branchCreationReference`).
The digits of a number hold no dash, so that the parts of the text are the label, the numbers and the time.
-/

namespace SuuqBackend

open Texts

namespace Texts

theorem split_dash {before : String} (h : '-' ∉ before.toList) (rest : String) :
    split (before ++ ("-" ++ rest)) '-' = before :: split rest '-' :=
  split_append (by decide) h rest

theorem split_eq_cons (text : String) (separator : Char) : ∃ part parts, split text separator = part :: parts := by
  have hne : split text separator ≠ [] := by
    unfold split
    rw [Ne, List.map_eq_nil_iff]
    exact List.splitOn_ne_nil _ _
  exact List.exists_cons_of_ne_nil hne

end Texts

namespace PosWorkspaceActivation

theorem referenceNumber_toString (n : ℕ) : referenceNumber (toString n) = if 0 < n then some n else none := by
  unfold referenceNumber
  rw [numberAfter_toString]
  by_cases h : 0 < n
  · rw [if_pos h]
    exact Option.filter_some_pos (decide_eq_true h)
  · rw [if_neg h]
    exact Option.filter_some_neg (decide_eq_false h)

theorem parse_activationReference_eq (branchId : ℕ) (now : ℤ) :
    parseBranchIdFromReference (activationReference branchId now) = if 0 < branchId then some branchId else none := by
  obtain ⟨part, parts, hparts⟩ := split_eq_cons (toString now) '-'
  have hsplit : split (activationReference branchId now) '-' = "POSACT" :: toString branchId :: part :: parts := by
    have htext : activationReference branchId now =
        "POSACT" ++ ("-" ++ (toString branchId ++ ("-" ++ toString now))) := by
      unfold activationReference
      simp only [String.append_assoc]
      rfl
    rw [htext, split_dash (by decide), split_dash (TextKeys.dash_notMem_toString branchId), hparts]
  unfold parseBranchIdFromReference
  rw [hsplit]
  exact referenceNumber_toString branchId

theorem parse_branchCreationReference {tenantId userId tenantId' userId' : ℕ} {now : ℤ}
    (h : parseBranchCreationReference (branchCreationReference tenantId userId now) = some (tenantId', userId')) :
    tenantId' = tenantId ∧ userId' = userId := by
  obtain ⟨part, parts, hparts⟩ := split_eq_cons (toString now) '-'
  have hsplit : split (branchCreationReference tenantId userId now) '-' =
      "POSBRANCH" :: toString tenantId :: toString userId :: part :: parts := by
    have htext : branchCreationReference tenantId userId now =
        "POSBRANCH" ++ ("-" ++ (toString tenantId ++ ("-" ++ (toString userId ++ ("-" ++ toString now))))) := by
      unfold branchCreationReference
      simp only [String.append_assoc]
      rfl
    rw [htext, split_dash (by decide), split_dash (TextKeys.dash_notMem_toString tenantId),
      split_dash (TextKeys.dash_notMem_toString userId), hparts]
  unfold parseBranchCreationReference at h
  rw [hsplit] at h
  change ((referenceNumber (toString tenantId)).bind fun tenantId =>
    (referenceNumber (toString userId)).bind fun userId => some (tenantId, userId)) = some (tenantId', userId') at h
  rw [referenceNumber_toString, referenceNumber_toString] at h
  split_ifs at h with htenant huser
  · have hboth : (tenantId, userId) = (tenantId', userId') := Option.some.inj h
    exact ⟨(congrArg Prod.fst hboth).symm, (congrArg Prod.snd hboth).symm⟩
  · cases h
  · cases h
  · cases h

end PosWorkspaceActivation

end SuuqBackend
