import Mathlib.Algebra.Order.Ring.Nat
import ModelRepository.Proofs.Repository.Commit
import ModelRepository.Proofs.Retrieval.BreadthFirst
import ModelRepository.Server.Operation

/-! A limit that no repository exhausts is no limit.
A limit of at least the number of indexed nodes collects the same instances in the same order as no
limit at all. Raw requests make use of this: from `unboundedFrom` on they ask for no limit, and up
to that many nodes nobody can tell.
-/

namespace ModelRepository

open Std

variable {repository : Repository}

/-- Retrievals with ample limits do not differ, in what they collect or in what they refuse. -/
theorem Repository.retrieve_eq_of_permits {depth other : Depth} (ids : List String)
    (policy : UnknownPolicy) (ample : depth.Permits repository.nodes.size)
    (ampleToo : other.Permits repository.nodes.size)
    : repository.retrieve ids depth policy = repository.retrieve ids other policy := by
  simp only [retrieve, Retrieval.collect_eq_of_permits ids ample ampleToo]

/-- A raw depth that is not negative asks for that number or for no limit. -/
theorem Depth.ofRaw_of_nonneg {raw : Int} (nonnegative : 0 ≤ raw)
    : ofRaw raw = .ok (if unboundedFrom ≤ raw then unbounded else ofNat raw.toNat) := by
  rw [ofRaw, if_neg (Int.not_lt.mpr nonnegative)]
  split
  · rfl
  · rename_i below
    have exact : raw.toNat ≠ unboundedNumber := by
      simp only [unboundedFrom, unboundedNumber] at below ⊢
      omega
    rw [ofNat, if_neg exact]

namespace Server

/-- In any repository and for any requests, a limit of at least the number of indexed nodes makes no
difference to no limit, whatever is done about unknown identifiers. Hence a raw request that asks a
repository of at most 2^31 - 1 nodes for a depth is answered as if its number had been taken as it
is, even where it stands for no limit.
-/
theorem ample_limits_make_no_difference
    : (∀ (repository : Repository) (ids : List String) (limit : Nat) (policy : UnknownPolicy),
        repository.nodes.size ≤ limit
        → repository.retrieve ids (.ofNat limit) policy
          = repository.retrieve ids (.ofNat Depth.unboundedNumber) policy)
      ∧ ∀ (server : Server) (name : String) (ids : List String) (raw : Int),
          (∀ repository,
            server.repository name = .ok repository → repository.nodes.size ≤ 2 ^ 31 - 1)
          → idListError? ids = none
          → 0 ≤ raw
          → server.answer (.bulkRetrieve name ids raw)
            = server.answer (.retrieve name ids (.ofNat raw.toNat) .report) := by
  refine ⟨?_, ?_⟩
  · intro repository ids limit policy ample
    refine repository.retrieve_eq_of_permits ids policy ?_ ?_
    · exact (Depth.permits_ofNat_iff limit _).mpr (Or.inr ample)
    · exact (Depth.permits_ofNat_iff Depth.unboundedNumber _).mpr (Or.inl rfl)
  · intro server name ids raw small accepted nonnegative
    simp only [answer, bulkRetrieve, accepted, Depth.ofRaw_of_nonneg nonnegative]
    cases found : server.repository name with
    | error error => rfl
    | ok repository =>
        by_cases above : unboundedFrom ≤ raw
        · have ample : repository.nodes.size ≤ raw.toNat := by
            have bound := small repository found
            simp only [unboundedFrom] at above
            omega
          have same : repository.retrieve ids .unbounded .report
              = repository.retrieve ids (.ofNat raw.toNat) .report :=
            repository.retrieve_eq_of_permits ids .report trivial
              ((Depth.permits_ofNat_iff raw.toNat _).mpr (Or.inr ample))
          simp only [if_pos above, same]
        · simp only [if_neg above]

-- A repository in which a bounded walk comes by some nodes twice.

/-- The shelf is reached through two containments first and along annotations alone afterwards. The
leaf lists the root again, and something that is not indexed.
-/
def winding : Repository :=
  .ofParts { name := "winding" } (IdSet.ofIds ["root"])
    (Index.ofInstances [
      { Instance.withChildren "root" none ["hall"] with annotations := ["note"] },
      { Instance.withChildren "note" (some "root") [] with annotations := ["remark"] },
      { Instance.withChildren "remark" (some "note") [] with annotations := ["shelf"] },
      .withChildren "hall" (some "root") ["shelf"],
      .withChildren "shelf" (some "hall") ["leaf"],
      .withChildren "leaf" (some "shelf") ["root", "missing"]])
    0 1

/-- A server with nothing but the winding repository. -/
def windingServer : Server :=
  { repositories := (∅ : ExtTreeMap String Repository).insert "winding" winding }

/-- With the number of nodes as the limit, the winding repository is retrieved as without a limit,
and a raw request for the least depth that means no limit is answered as one for that depth.
-/
theorem winding_makes_no_difference
    : winding.nodes.size ≤ 6
      ∧ winding.retrieve ["root", "nowhere", "root"] (.ofNat 6) .report
        = winding.retrieve ["root", "nowhere", "root"] (.ofNat Depth.unboundedNumber) .report
      ∧ (∀ repository,
          windingServer.repository "winding" = .ok repository
          → repository.nodes.size ≤ 2 ^ 31 - 1)
      ∧ idListError? ["root"] = none
      ∧ 0 ≤ unboundedFrom
      ∧ windingServer.answer (.bulkRetrieve "winding" ["root"] unboundedFrom)
        = windingServer.answer
            (.retrieve "winding" ["root"] (.ofNat unboundedFrom.toNat) .report) := by
  have size : winding.nodes.size ≤ 6 := by decide +kernel
  have small : ∀ repository,
      windingServer.repository "winding" = .ok repository
      → repository.nodes.size ≤ 2 ^ 31 - 1 := by
    intro repository found
    cases found
    exact Nat.le_trans size (by decide)
  have accepted : idListError? ["root"] = none := by decide +kernel
  have nonnegative : 0 ≤ unboundedFrom := by decide
  exact ⟨size, ample_limits_make_no_difference.1 winding _ 6 .report size, small, accepted,
    nonnegative,
    ample_limits_make_no_difference.2 windingServer _ _ _ small accepted nonnegative⟩

end Server

end ModelRepository
