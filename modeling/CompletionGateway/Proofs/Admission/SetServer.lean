import CompletionGateway.Admission.SharedWindow
import CompletionGateway.Proofs.Association

/-! The server of sorted sets: what a key's set is after each command and after the transaction that records a request.
A set whose time is over counts as empty, at that time and ever after. -/
namespace CompletionGateway.Admission

namespace SortedSet

def empty : SortedSet := ⟨[], none⟩

/-- The set as it is seen at a time, by a server that deletes what is over or one that does not. -/
def seen (expires : Bool) (t : Int) (set : SortedSet) : SortedSet :=
  match set.deadline with
  | some d => if expires && d ≤ t then empty else set
  | none => set

lemma members_seen (expires : Bool) (t d : Int) (members : List (String × Int)) :
    (seen expires t ⟨members, some d⟩).members = if expires = true ∧ d ≤ t then [] else members := by
  unfold seen
  by_cases h : expires = true ∧ d ≤ t
  · simp [h, empty]
  · have hlive : (expires && decide (d ≤ t)) = false := by simpa using h
    simp [hlive, h]

/-- The time of the set is not over yet. -/
def Live (expires : Bool) (t : Int) (set : SortedSet) : Prop := set.seen expires t = set

lemma live_empty (expires : Bool) (t : Int) : empty.Live expires t := rfl

lemma seen_live (expires : Bool) (t : Int) (set : SortedSet) : (set.seen expires t).Live expires t := by
  unfold seen
  split
  · split
    · exact live_empty expires t
    · rename_i d hd hlive
      rw [Live, seen, hd]
      exact if_neg hlive
  · rename_i hd
    rw [Live, seen, hd]

/-- Only the deadline decides. -/
lemma Live.with_members {expires : Bool} {t : Int} {set : SortedSet} (h : set.Live expires t)
    (members : List (String × Int)) : Live expires t ⟨members, set.deadline⟩ := by
  unfold Live seen at h ⊢
  cases hd : set.deadline with
  | none => rfl
  | some d =>
    rw [hd] at h
    dsimp only at h ⊢
    split at h
    · rw [← h] at hd
      cases hd
    · rw [if_neg ‹_›]

end SortedSet

namespace SetServer
variable (s : SetServer) (t : Int) (key : String)

lemma lookup_eq : s.lookup t key = ((s.sets.find? key).getD .empty).seen s.expires t := by
  unfold lookup
  cases s.sets.find? key with
  | none => rfl
  | some set => rfl

lemma lookup_live : (s.lookup t key).Live s.expires t := by
  rw [lookup_eq]
  exact SortedSet.seen_live _ _ _

@[simp] lemma expires_store (set : SortedSet) : (s.store key set).expires = s.expires := by
  unfold store
  split <;> rfl

/-- What is stored is seen from then on, unless there is nothing in it. -/
lemma lookup_store (set : SortedSet) (key' : String) : (s.store key set).lookup t key' =
    if key' = key then if set.members = [] then .empty else set.seen s.expires t else s.lookup t key' := by
  rw [lookup_eq, expires_store, lookup_eq]
  unfold store
  by_cases hkey : key' = key
  · by_cases hset : set.members = []
    · simp only [hset, List.isEmpty_nil, if_true, Association.find?_erase, hkey, Option.getD_none]
      rfl
    · simp only [List.isEmpty_iff, hset, if_false, Association.find?_insert, hkey, if_true, Option.getD_some]
  · split <;> simp [hkey]

lemma lookup_store_live {set : SortedSet} (h : set.Live s.expires t) :
    ((s.store key set).lookup t key).members = set.members := by
  rw [lookup_store, if_pos rfl]
  split
  · rename_i hset
    rw [hset]
    rfl
  · rw [h]

/-! ### Recording a request -/

lemma addMember_ne_nil (members : List (String × Int)) (member : String) (score : Int) :
    addMember members member score ≠ [] := by simp [addMember]

/-- What a set holds after a request: what left the window is out, and the request is in. -/
def afterwards (set : SortedSet) (least greatest : Int) (member : String) (score : Int) : List (String × Int) :=
  addMember (set.members.filter fun m => !(least ≤ m.2 && m.2 ≤ greatest)) member score

/-- The transaction counts what it leaves in the set, and touches no other one. -/
theorem runAll_record (least greatest : Int) (member : String) (score seconds : Int) :
    let r := s.runAll t [.removeByScore key least greatest, .add key member score, .cardinality key,
      .expire key seconds]
    let members := afterwards (s.lookup t key) least greatest member score
    r.1 = some members.length ∧ r.2.expires = s.expires ∧
      ∀ t' key', r.2.lookup t' key' =
        if key' = key then SortedSet.seen s.expires t' ⟨members, some (t + seconds * 1000000)⟩
        else s.lookup t' key' := by
  set old := s.lookup t key with hold
  set kept := old.members.filter fun m => !(least ≤ m.2 && m.2 ≤ greatest) with hkept
  -- after the eviction
  set s₁ := s.store key ⟨kept, old.deadline⟩ with hs₁
  have hlive₁ : SortedSet.Live s.expires t ⟨kept, old.deadline⟩ := (s.lookup_live t key).with_members kept
  have hmembers₁ : (s₁.lookup t key).members = kept := s.lookup_store_live t key hlive₁
  have hexpires₁ : s₁.expires = s.expires := s.expires_store key _
  -- after the request was added
  set s₂ := s₁.store key ⟨addMember kept member score, (s₁.lookup t key).deadline⟩ with hs₂
  have hlive₂ : SortedSet.Live s₁.expires t ⟨addMember kept member score, (s₁.lookup t key).deadline⟩ :=
    (s₁.lookup_live t key).with_members _
  have hmembers₂ : (s₂.lookup t key).members = addMember kept member score := s₁.lookup_store_live t key hlive₂
  have hexpires₂ : s₂.expires = s.expires := (s₁.expires_store key _).trans hexpires₁
  have hrun : s.runAll t [.removeByScore key least greatest, .add key member score, .cardinality key,
      .expire key seconds] = (some (addMember kept member score).length,
        s₂.store key ⟨addMember kept member score, some (t + seconds * 1000000)⟩) := by
    have hne : (addMember kept member score).isEmpty = false := by
      simp [addMember_ne_nil]
    simp only [runAll, List.foldl_cons, List.foldl_nil, run, ← hold, ← hkept, ← hs₁, hmembers₁, ← hs₂, hmembers₂, hne]
    rfl
  dsimp only
  rw [hrun]
  refine ⟨rfl, by rw [expires_store, hexpires₂], ?_⟩
  intro t' key'
  rw [lookup_store, hexpires₂, if_neg (addMember_ne_nil _ _ _)]
  split
  · rfl
  · rename_i hkey
    rw [hs₂, lookup_store, if_neg hkey, hs₁, lookup_store, if_neg hkey]

end SetServer
end CompletionGateway.Admission
