import Coordination.Proofs.Store.Erasures

/-!
# Transaction numbers decide nothing

A tree writes down which transactions created and modified its nodes, and hands these numbers out in
its answers, but no request is accepted or refused because of them. To make this precise the numbers
are erased: an unstamped tree behaves as the tree itself does, under whatever number the request is
applied. So two trees that differ in nothing else accept the same requests and stay alike.

## Main definitions

* `Tree.unstamped`, `Answer.unstamped`: what is left without the numbers of transactions

## Main results

* `Tree.apply_unstamped`: erasing the numbers commutes with applying a request
* `Tree.applyAll_unstamped`: and with applying a batch
-/

namespace Coordination

/-- The stat without the numbers of the transactions that wrote the node. -/
def Stat.unstamped (stat : Stat) : Stat := { stat with created := 0, modified := 0 }

/-- The node without the numbers of the transactions that wrote it. -/
def Node.unstamped (n : Node) : Node := { n with stat := n.stat.unstamped }

/-- The answer without the numbers of transactions. -/
def Answer.unstamped : Answer → Answer
  | created path stat => .created path (stat.map Stat.unstamped)
  | deleted => .deleted
  | dataSet stat => .dataSet stat.unstamped
  | checked => .checked
  | failed code => .failed code

/-- The erasure of the numbers of transactions; data stay. -/
def Erasure.ofStamps : Erasure :=
  { number := fun _ => 0, data := id, size_data := fun _ => rfl }

theorem Answer.erased_ofStamps : Answer.erased .ofStamps = Answer.unstamped := by
  funext a
  cases a <;> rfl

@[simp] theorem Request.erased_ofStamps (r : Request) : r.erased .ofStamps = r := by
  cases r <;> rfl

namespace Tree

/-- The tree without the numbers of transactions. -/
def unstamped (t : Tree) : Tree :=
  { nodes := t.nodes.map fun _ n => n.unstamped, transaction := 0 }


theorem erased_ofStamps (t : Tree) : t.erased .ofStamps = t.unstamped := rfl

@[simp] theorem node?_unstamped (t : Tree) (p : String) :
    t.unstamped.node? p = (t.node? p).map Node.unstamped :=
  t.node?_erased (e := .ofStamps) p

/-- What a request does, without the numbers of transactions. -/
def outcome (result : Answer × Tree) : Answer × Tree := (result.1.unstamped, result.2.unstamped)

theorem outcomeErased_ofStamps : outcomeErased .ofStamps = outcome := by
  funext result
  rw [outcomeErased, Answer.erased_ofStamps]
  rfl

/-- **A request does the same to a tree whatever the numbers of the transactions are.** -/
theorem apply_unstamped (t : Tree) (s : Session) (stamp : Int) (r : Request) :
    t.unstamped.apply s 0 r = (t.apply s stamp r).map outcome := by
  have h := t.apply_erased (e := .ofStamps) s stamp r
  rwa [Request.erased_ofStamps, outcomeErased_ofStamps] at h

/-- **So does a batch.** -/
theorem applyAll_unstamped (t : Tree) (s : Session) (stamp : Int) (index : Nat)
    (rs : List Request) :
    t.unstamped.applyAll s 0 index rs =
      (t.applyAll s stamp index rs).map fun (as, t') =>
        (as.map Answer.unstamped, t'.unstamped) := by
  have h := t.applyAll_erased (e := .ofStamps) s stamp index rs
  simp only [Request.erased_ofStamps, List.map_id', Answer.erased_ofStamps] at h
  exact h

end Tree

end Coordination
