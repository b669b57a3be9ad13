import CompletionGateway.Proofs.Store.Memory
import CompletionGateway.Proofs.Time

/-! What a store in memory lists, in whatever order its map goes through the conversations. An owner may be told any order
that puts the recently updated first, and of conversations of different times there is one such order only. -/
namespace CompletionGateway.Store

/-- Whether a conversation is at least as recent as another. -/
def newer (a b : Conversation) : Bool := Time.le b.updatedAt a.updatedAt

lemma newer_trans (a b c : Conversation) (hab : newer a b = true) (hbc : newer b c = true) : newer a c = true :=
  Time.le_trans hbc hab

lemma newer_total (a b : Conversation) : (newer a b || newer b a) = true := Time.le_total b.updatedAt a.updatedAt

namespace Memory
variable {s s' : Memory}

lemma ownedBy_eq (s : Memory) (p : Principal) (limit : Nat) :
    s.ownedBy p limit = ((s.owned p).mergeSort newer).take limit := rfl

namespace Reordered

lemma find?_eq (h : Reordered s s') (hs : s.WellFormed) (id : ConversationId) : s'.find? id = s.find? id := by
  have hdistinct : s'.conversations.Distinct := (h.entries.map Prod.fst).nodup_iff.mp hs.distinct
  apply Option.ext
  intro c
  rw [Memory.find?, Memory.find?, ← hdistinct.mem_iff, ← hs.distinct.mem_iff, h.entries.mem_iff]

lemma insert (h : Reordered s s') (hs : s.WellFormed) (id : ConversationId) (c : Conversation) (ms : List Message) :
    Reordered ⟨s.conversations.insert id c, ms⟩ ⟨s'.conversations.insert id c, ms⟩ := by
  have hcontains : s'.conversations.contains id = s.conversations.contains id := by
    have hfind : s'.conversations.find? id = s.conversations.find? id := h.find?_eq hs id
    rw [Bool.eq_iff_iff, Association.contains_iff, Association.contains_iff, hfind]
  refine ⟨?_, rfl⟩
  simp only [Association.insert, hcontains]
  split
  · exact h.entries.map _
  · exact h.entries.append_right _

/-- Conversations that were updated at different times are listed in one order only. -/
lemma ownedBy_eq (h : Reordered s s') {p : Principal} (hdistinct : ((s.owned p).map (·.updatedAt)).Nodup)
    (limit : Nat) : s'.ownedBy p limit = s.ownedBy p limit := by
  have hperm := h.owned_perm p
  rw [Memory.ownedBy_eq, Memory.ownedBy_eq]
  congr 1
  have hsorts : ((s'.owned p).mergeSort newer).Perm ((s.owned p).mergeSort newer) :=
    (List.mergeSort_perm _ _).trans (hperm.trans (List.mergeSort_perm _ _).symm)
  refine hsorts.eq_of_pairwise ?_ (List.pairwise_mergeSort newer_trans newer_total _)
    (List.pairwise_mergeSort newer_trans newer_total _)
  intro a b ha hb hab hba
  have ha := hperm.mem_iff.mp (List.mem_mergeSort.mp ha)
  have hb := List.mem_mergeSort.mp hb
  exact List.inj_on_of_nodup_map hdistinct ha hb (Time.le_antisymm hba hab)

end Reordered

/-- The map may go through the conversations of an owner in any order. -/
lemma WellFormed.exists_reordered (hs : s.WellFormed) {p : Principal} {cs : List Conversation}
    (hcs : cs.Perm (s.owned p)) : ∃ m, s.Reordered m ∧ m.owned p = cs := by
  set others := s.conversations.entries.filter fun e => !e.2.isOwnedBy p with hothers
  have hown : s.conversations.entries.filter (fun e => e.2.isOwnedBy p) = (s.owned p).map fun c => (c.id, c) := by
    have hname : ∀ e ∈ s.conversations.entries.filter (fun e => e.2.isOwnedBy p), (e.2.id, e.2) = e := by
      intro e he
      rw [hs.named_of_mem (List.mem_of_mem_filter he)]
    rw [owned, held, List.filter_map, List.map_map]
    exact ((List.map_congr_left hname).trans (List.map_id _)).symm
  have hall : ∀ c ∈ cs, c.isOwnedBy p = true := fun c hc => (List.mem_filter.mp (hcs.mem_iff.mp hc)).2
  have hnone : (others.map (·.2)).filter (·.isOwnedBy p) = [] := by simp [hothers, List.filter_eq_nil_iff]
  refine ⟨⟨⟨cs.map (fun c => (c.id, c)) ++ others⟩, s.messages⟩, ⟨?_, rfl⟩, ?_⟩
  · refine (List.filter_append_perm (fun e => e.2.isOwnedBy p) _).symm.trans ?_
    rw [hown]
    exact (hcs.map _).symm.append_right _
  · have hsame : (cs.map fun c => (c.id, c)).map (·.2) = cs := by
      rw [List.map_map]
      exact List.map_id _
    rw [owned, held, List.map_append, List.filter_append, hnone, hsame, List.append_nil, List.filter_eq_self.mpr hall]

end Memory
end CompletionGateway.Store
