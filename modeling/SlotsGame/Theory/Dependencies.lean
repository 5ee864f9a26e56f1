/-
# SlotsGame.Theory.Dependencies -- closures and orders of a dependency relation

`depends` lists what each item needs directly.  `visitOrder` puts items after all
they need and refuses a cycle; `visitClosure` collects an item with all it needs.
Both are depth first: what an item needs is visited before the item is added.

`visitOrder_ordered` says that the order found is one, `Ordered.rank_lt` turns an
order into a rank that decreases along the relation, and `mem_closureOf` says that,
with such a rank, the closure holds exactly what can be reached.
-/
import Mathlib.Data.List.Nodup
import Mathlib.Logic.Relation

namespace SlotsGame.Theory

set_option autoImplicit false

universe u

variable {α : Type u} [DecidableEq α] (depends : α → List α)

/-! ## Visits -/

/-- One visit of an ordering.  `path` is the items whose visit has not ended; the
error is the item at which a cycle closes. -/
def visitOrder : Nat → List α → List α → α → Except α (List α)
  | 0, _, _, item => .error item
  | fuel + 1, path, visited, item =>
      if item ∈ visited then .ok visited
      else if item ∈ path then .error item
      else do
        let before ← (depends item).foldlM (visitOrder fuel (item :: path)) visited
        .ok (before ++ [item])

/-- One visit of a closure. -/
def visitClosure : Nat → List α → α → List α
  | 0, selected, _ => selected
  | fuel + 1, selected, item =>
      if item ∈ selected then selected
      else (depends item).foldl (visitClosure fuel) selected ++ [item]

/-- Every item stands after all it needs. -/
def Ordered (items : List α) : Prop :=
  ∀ before item after, items = before ++ item :: after → ∀ d ∈ depends item, d ∈ before

/-- What an item of the list needs is in the list. -/
def Closed (items : List α) : Prop := ∀ item ∈ items, ∀ d ∈ depends item, d ∈ items

/-- What `item` needs, directly or not; itself included. -/
def Needs (item needed : α) : Prop :=
  Relation.ReflTransGen (fun upper lower => lower ∈ depends upper) item needed

variable {depends} {items visited result : List α} {item : α}

/-! ## Orders -/

omit [DecidableEq α] in
theorem Ordered.nil : Ordered depends [] := by
  intro before item after split
  simp at split

omit [DecidableEq α] in
theorem Ordered.push (ordered : Ordered depends items) (present : ∀ d ∈ depends item, d ∈ items) :
    Ordered depends (items ++ [item]) := by
  intro before inner after split
  rcases List.eq_nil_or_concat after with rfl | ⟨init, last, rfl⟩
  · obtain ⟨rfl, same⟩ := List.append_inj' split rfl
    obtain rfl := List.singleton_inj.mp same
    exact present
  · rw [List.concat_eq_append, ← List.cons_append, ← List.append_assoc] at split
    obtain ⟨here, _⟩ := List.append_inj' split rfl
    exact ordered before inner init here

/-- An order gives each item a rank above all it needs. -/
theorem Ordered.rank_lt (ordered : Ordered depends items) (distinct : items.Nodup)
    (member : item ∈ items) {d : α} (needed : d ∈ depends item) :
    items.idxOf d < items.idxOf item := by
  obtain ⟨before, after, rfl⟩ := List.append_of_mem member
  have earlier := ordered before item after rfl d needed
  have fresh : item ∉ before := by
    intro twice
    rw [List.nodup_append] at distinct
    exact distinct.2.2 item twice item List.mem_cons_self rfl
  rw [List.idxOf_append_of_mem earlier, List.idxOf_append_of_notMem fresh]
  have bound := List.idxOf_lt_length_of_mem earlier
  omega

omit [DecidableEq α] in
theorem Ordered.closed (ordered : Ordered depends items) : Closed depends items := by
  intro item member d needed
  obtain ⟨before, after, rfl⟩ := List.append_of_mem member
  exact List.mem_append_left _ (ordered before item after rfl d needed)

/-- What one visit of an ordering keeps and adds. -/
structure Visited (depends : α → List α) (known : List α) (path visited result : List α) :
    Prop where
  kept : visited ⊆ result
  ordered : Ordered depends result
  distinct : result.Nodup
  within : result ⊆ known
  apart : ∀ item ∈ path, item ∈ result → item ∈ visited

omit [DecidableEq α] in
theorem Visited.refl {known path : List α} (ordered : Ordered depends visited)
    (distinct : visited.Nodup) (within : visited ⊆ known) :
    Visited depends known path visited visited :=
  ⟨fun _ member => member, ordered, distinct, within, fun _ _ member => member⟩

theorem visitOrder_visited {known : List α} (closed : Closed depends known) (fuel : Nat) :
    ∀ {path visited result : List α} {item : α}, item ∈ known → Ordered depends visited →
      visited.Nodup → visited ⊆ known →
      visitOrder depends fuel path visited item = .ok result →
      Visited depends known path visited result ∧ item ∈ result := by
  induction fuel with
  | zero =>
      intro path visited result item _ _ _ _ done
      simp [visitOrder] at done
  | succ fuel ih =>
      intro path visited result item isKnown ordered distinct within done
      simp only [visitOrder] at done
      split at done
      · next here =>
          obtain rfl := Except.ok.inj done
          exact ⟨.refl ordered distinct within, here⟩
      · next absent =>
          split at done
          · cases done
          · next offPath =>
              -- The items it needs, one after another.
              have fold : ∀ (needs : List α) (start stop : List α), needs ⊆ known →
                  Ordered depends start → start.Nodup → start ⊆ known →
                  needs.foldlM (visitOrder depends fuel (item :: path)) start = .ok stop →
                  Visited depends known (item :: path) start stop ∧ needs ⊆ stop := by
                intro needs
                induction needs with
                | nil =>
                    intro start stop _ ordered distinct within done
                    obtain rfl := Except.ok.inj done
                    exact ⟨.refl ordered distinct within, List.nil_subset _⟩
                | cons d rest ihRest =>
                    intro start stop areKnown ordered distinct within done
                    rw [List.foldlM_cons] at done
                    cases first : visitOrder depends fuel (item :: path) start d with
                    | error at_cycle => rw [first] at done; cases done
                    | ok middle =>
                        rw [first] at done
                        obtain ⟨one, added⟩ := ih (areKnown List.mem_cons_self) ordered distinct
                          within first
                        obtain ⟨later, rest⟩ := ihRest middle stop
                          (fun _ member => areKnown (List.mem_cons_of_mem _ member))
                          one.ordered one.distinct one.within done
                        refine ⟨⟨fun _ member => later.kept (one.kept member), later.ordered,
                          later.distinct, later.within, fun x onPath inStop =>
                            one.apart x onPath (later.apart x onPath inStop)⟩, ?_⟩
                        intro x member
                        rcases List.mem_cons.mp member with rfl | there
                        · exact later.kept added
                        · exact rest there
              cases all : (depends item).foldlM (visitOrder depends fuel (item :: path)) visited with
              | error at_cycle => rw [all] at done; cases done
              | ok before =>
                  rw [all] at done
                  obtain rfl := Except.ok.inj done
                  obtain ⟨reached, present⟩ := fold (depends item) visited before
                    (closed item isKnown) ordered distinct within all
                  have fresh : item ∉ before := fun member =>
                    absent (reached.apart item List.mem_cons_self member)
                  refine ⟨⟨fun _ member => List.mem_append_left _ (reached.kept member),
                    reached.ordered.push present, ?_, ?_, ?_⟩, by simp⟩
                  · rw [List.nodup_append]
                    refine ⟨reached.distinct, List.nodup_singleton _, ?_⟩
                    rintro x member y single rfl
                    exact fresh (List.mem_singleton.mp single ▸ member)
                  · intro x member
                    rcases List.mem_append.mp member with inside | single
                    · exact reached.within inside
                    · exact List.mem_singleton.mp single ▸ isKnown
                  · intro x onPath member
                    rcases List.mem_append.mp member with inside | single
                    · exact reached.apart x (List.mem_cons_of_mem _ onPath) inside
                    · obtain rfl := List.mem_singleton.mp single
                      exact absurd onPath offPath

/-- The visits of all items find an order of them. -/
theorem visitOrder_ordered {known : List α} (closed : Closed depends known) {fuel : Nat} :
    ∀ {wanted visited result : List α}, wanted ⊆ known → Ordered depends visited →
      visited.Nodup → visited ⊆ known →
      wanted.foldlM (visitOrder depends fuel []) visited = .ok result →
      Ordered depends result ∧ result.Nodup ∧ result ⊆ known ∧ visited ⊆ result ∧
        wanted ⊆ result := by
  intro wanted
  induction wanted with
  | nil =>
      intro visited result _ ordered distinct within done
      obtain rfl := Except.ok.inj done
      exact ⟨ordered, distinct, within, fun _ member => member, List.nil_subset _⟩
  | cons item rest ih =>
      intro visited result areKnown ordered distinct within done
      rw [List.foldlM_cons] at done
      cases first : visitOrder depends fuel [] visited item with
      | error at_cycle => rw [first] at done; cases done
      | ok middle =>
          rw [first] at done
          obtain ⟨one, added⟩ := visitOrder_visited closed fuel (areKnown List.mem_cons_self)
            ordered distinct within first
          obtain ⟨ordered', distinct', within', kept, present⟩ := ih
            (fun _ member => areKnown (List.mem_cons_of_mem _ member)) one.ordered one.distinct
            one.within done
          refine ⟨ordered', distinct', within', fun _ member => kept (one.kept member), ?_⟩
          intro x member
          rcases List.mem_cons.mp member with rfl | there
          · exact kept added
          · exact present there

/-! ## Closures -/

/-- What one visit of a closure keeps and adds. -/
structure Collected (depends : α → List α) (selected wanted result : List α) : Prop where
  kept : selected ⊆ result
  closed : Closed depends result
  present : wanted ⊆ result
  needed : ∀ x ∈ result, x ∈ selected ∨ ∃ item ∈ wanted, Needs depends item x

omit [DecidableEq α] in
theorem visitClosure_fold {visit : List α → α → List α} {wanted : List α}
    (one : ∀ item ∈ wanted, ∀ selected, Closed depends selected →
      Collected depends selected [item] (visit selected item)) :
    ∀ {selected : List α}, Closed depends selected →
      Collected depends selected wanted (wanted.foldl visit selected) := by
  induction wanted with
  | nil =>
      intro selected closed
      exact ⟨fun _ member => member, closed, List.nil_subset _, fun _ member => .inl member⟩
  | cons item rest ih =>
      intro selected closed
      have first := one item List.mem_cons_self selected closed
      have later := ih (fun x member => one x (List.mem_cons_of_mem _ member)) first.closed
      refine ⟨fun _ member => later.kept (first.kept member), later.closed, ?_, ?_⟩
      · intro x member
        rcases List.mem_cons.mp member with rfl | there
        · exact later.kept (first.present List.mem_cons_self)
        · exact later.present there
      · intro x member
        rcases later.needed x member with before | ⟨other, there, needs⟩
        · rcases first.needed x before with old | ⟨same, single, needs⟩
          · exact .inl old
          · exact .inr ⟨item, List.mem_cons_self, List.mem_singleton.mp single ▸ needs⟩
        · exact .inr ⟨other, List.mem_cons_of_mem _ there, needs⟩

/-- With a rank that decreases along the relation, one visit collects what an item needs. -/
theorem visitClosure_collected {rank : α → Nat}
    (below : ∀ item, ∀ d ∈ depends item, rank d < rank item) (fuel : Nat) :
    ∀ {selected : List α} {item : α}, rank item < fuel → Closed depends selected →
      Collected depends selected [item] (visitClosure depends fuel selected item) := by
  induction fuel with
  | zero => intro selected item less; omega
  | succ fuel ih =>
      intro selected item less closed
      simp only [visitClosure]
      split
      · next here =>
          refine ⟨fun _ member => member, closed, ?_, fun _ member => .inl member⟩
          intro x single
          exact List.mem_singleton.mp single ▸ here
      · have all := @visitClosure_fold α depends (visitClosure depends fuel) (depends item)
          (fun d needed selected closed =>
            ih (Nat.lt_of_lt_of_le (below item d needed) (Nat.le_of_lt_succ less)) closed)
          selected closed
        refine ⟨fun _ member => List.mem_append_left _ (all.kept member), ?_, ?_, ?_⟩
        · intro x member d needed
          rcases List.mem_append.mp member with inside | single
          · exact List.mem_append_left _ (all.closed x inside d needed)
          · obtain rfl := List.mem_singleton.mp single
            exact List.mem_append_left _ (all.present needed)
        · intro x single
          exact List.mem_append_right _ single
        · intro x member
          rcases List.mem_append.mp member with inside | single
          · rcases all.needed x inside with old | ⟨d, needed, further⟩
            · exact .inl old
            · exact .inr ⟨item, List.mem_singleton_self _, further.head needed⟩
          · exact .inr ⟨item, List.mem_singleton_self _,
              List.mem_singleton.mp single ▸ .refl⟩

/-- Everything the wanted items need, the items themselves included. -/
def closureOf (depends : α → List α) (fuel : Nat) (wanted : List α) : List α :=
  wanted.foldl (visitClosure depends fuel) []

theorem mem_closureOf {rank : α → Nat} {fuel : Nat} {wanted : List α}
    (below : ∀ item, ∀ d ∈ depends item, rank d < rank item)
    (enough : ∀ item ∈ wanted, rank item < fuel) {x : α} :
    x ∈ closureOf depends fuel wanted ↔ ∃ item ∈ wanted, Needs depends item x := by
  have all := @visitClosure_fold α depends (visitClosure depends fuel) wanted
    (fun item member selected closed =>
      visitClosure_collected below fuel (enough item member) closed)
    [] (fun _ member => by cases member)
  constructor
  · intro member
    rcases all.needed x member with none | found
    · cases none
    · exact found
  · rintro ⟨item, member, needs⟩
    have present : item ∈ closureOf depends fuel wanted := all.present member
    induction needs with
    | refl => exact present
    | tail _ needed ih => exact all.closed _ ih _ needed

end SlotsGame.Theory
