/-
A draw list that is asked for its order again and again.

A draw list works its order out when it is asked for it and keeps it from then on.  So
what it hands out might depend on when it was asked before, and on what it held then.  It
does not (`painted_in_order`): at any time in any history it hands out the items that
were pushed since it was last cleared, from the lowest layer up, and within a layer in the
order in which they were pushed.

`Holds` is what every event keeps.  The list holds those items, the kept order belongs
to them unless the list says otherwise, and even an order that is out of date names only
positions that exist.  The last needs saying because a push leaves the old order in
place; its positions stay valid since the only way to drop items is to drop all of them,
and the order with them.
-/
import DrawingBoard.Proofs.Drawing.PaintOrder
import Mathlib.Data.List.DropRight
import Mathlib.Data.List.Induction

namespace DrawingBoard

/-! ### Stable sorting -/

/-- The items in the order of painting: each of them as often as it is there, from the lowest
layer up, and within a layer in the order in which they came. -/
structure StablySorted (items sorted : List DrawItem) : Prop where
  perm : sorted.Perm items
  ascending : sorted.Pairwise DrawItem.Under
  within (layer : Layer) :
    sorted.filter (·.layer = layer) = items.filter (·.layer = layer)

instance : Std.Total DrawItem.Under := ⟨fun a b => Int.le_total a.layer.toInt b.layer.toInt⟩

instance : IsTrans DrawItem DrawItem.Under := ⟨fun _ _ _ => Int.le_trans⟩

theorem stablySorted_insertionSort (items : List DrawItem) :
    StablySorted items (items.insertionSort DrawItem.Under) where
  perm := List.perm_insertionSort _ items
  ascending := List.pairwise_insertionSort _ items
  within layer := by
    have hlevel : (items.filter (·.layer = layer)).Pairwise DrawItem.Under := by
      refine List.pairwise_of_forall_mem_list fun a ha b hb => ?_
      have ha' : a.layer = layer := by simpa using (List.mem_filter.mp ha).2
      have hb' : b.layer = layer := by simpa using (List.mem_filter.mp hb).2
      rw [DrawItem.Under, ha', hb']
    -- Items on one level are in order as they are, so sorting leaves them in this order.
    have hkept : (items.filter (·.layer = layer)).Sublist
        (items.insertionSort DrawItem.Under) :=
      List.sublist_insertionSort hlevel List.filter_sublist
    have hsub := hkept.filter (·.layer = layer)
    rw [List.filter_filter] at hsub
    simp only [Bool.and_self] at hsub
    exact (hsub.eq_of_length
      ((List.perm_insertionSort DrawItem.Under items).filter _).length_eq.symm).symm

namespace DrawList

/-! ### Histories -/

/-- What can happen to a draw list. -/
inductive Event where
  | push (layer : Layer) (stroke : Stroke)
  | clear
  /-- The list is asked for its items in the order of painting. -/
  | paint
deriving DecidableEq

/-- The item that an event records. -/
def Event.item? : Event → Option DrawItem
  | .push layer stroke => some ⟨layer, stroke⟩
  | _ => none

/-- The list after an event. -/
def step (l : DrawList) : Event → DrawList
  | .push layer stroke => l.push layer stroke
  | .clear => l.clear
  | .paint => l.inPaintOrder.2

/-- The list after a history that began without items. -/
def run (events : List Event) : DrawList := events.foldl step empty

/-- The items that were pushed since the last time the list was cleared. -/
def pushed (events : List Event) : List DrawItem :=
  (events.rtakeWhile (· ≠ .clear)).filterMap Event.item?

theorem run_concat (events : List Event) (event : Event) :
    run (events ++ [event]) = (run events).step event := List.foldl_concat ..

theorem pushed_concat_clear (events : List Event) : pushed (events ++ [.clear]) = [] := by
  rw [pushed, List.rtakeWhile_concat_neg _ _ _ (by simp)]
  rfl

theorem pushed_concat (events : List Event) {event : Event} (h : event ≠ .clear) :
    pushed (events ++ [event]) = pushed events ++ event.item?.toList := by
  rw [pushed, List.rtakeWhile_concat_pos _ _ _ (by simpa using h), List.filterMap_append, pushed]
  cases hitem : event.item? <;> simp [hitem]

/-- Events that push nothing leave what was pushed, or clear it. -/
theorem pushed_append (events : List Event) {more : List Event}
    (h : ∀ event ∈ more, event.item? = none) :
    pushed (events ++ more) = if .clear ∈ more then [] else pushed events := by
  induction more using List.reverseRecOn with
  | nil => simp
  | append_singleton more event ih =>
      have hlast : event.item? = none := h event (by simp)
      have hmore : ∀ e ∈ more, e.item? = none := fun e he => h e (by simp [he])
      rw [← List.append_assoc]
      by_cases hclear : event = .clear
      · subst hclear
        rw [pushed_concat_clear, if_pos (by simp)]
      · rw [pushed_concat _ hclear, ih hmore, hlast, Option.toList_none, List.append_nil]
        have hiff : .clear ∈ more ++ [event] ↔ .clear ∈ more := by simp [Ne.symm hclear]
        simp only [hiff]

/-! ### What every event keeps -/

/-- The list holds the items, and what it knows of their order can be relied on. -/
structure Holds (l : DrawList) (items : List DrawItem) : Prop where
  items : l.items.toList = items
  coherent : l.Coherent
  /-- No position of the order lies outside the items, not even if the order is out of date. -/
  inside : ∀ i ∈ l.order, i < l.items.size

namespace Holds

variable {l : DrawList} {items : List DrawItem}

theorem empty : Holds empty [] := ⟨rfl, coherent_empty, by simp [DrawList.empty]⟩

theorem push (h : Holds l items) (layer : Layer) (stroke : Stroke) :
    Holds (l.push layer stroke) (items ++ [⟨layer, stroke⟩]) where
  items := by rw [DrawList.push, Array.toList_push, h.items]
  coherent := coherent_push l layer stroke
  inside := by
    intro i hi
    have hlt : i < l.items.size := h.inside i hi
    rw [DrawList.push, Array.size_push]
    omega

theorem clear (l : DrawList) : Holds l.clear [] :=
  ⟨rfl, fun h => by simp [DrawList.clear] at h, by simp [DrawList.clear]⟩

/-- To work the order out changes no item, and leaves an order that belongs to the items. -/
theorem refresh (h : Holds l items) : Holds l.refresh items where
  items := by rw [items_refresh, h.items]
  coherent := fun _ => by rw [order_refresh h.coherent, items_refresh]
  inside := by
    rw [order_refresh h.coherent, items_refresh]
    exact fun i hi => mem_sortedPositions_iff.mp hi

end Holds

theorem holds_run (events : List Event) : Holds (run events) (pushed events) := by
  induction events using List.reverseRecOn with
  | nil => exact .empty
  | append_singleton events event ih =>
      rw [run_concat]
      cases event with
      | push layer stroke =>
          rw [pushed_concat events (by simp)]
          exact ih.push layer stroke
      | clear =>
          rw [pushed_concat_clear]
          exact Holds.clear (run events)
      | paint =>
          have hsame : pushed (events ++ [.paint]) = pushed events := by
            rw [pushed_concat events (by simp)]
            exact List.append_nil _
          rw [hsame]
          exact ih.refresh

/-- What is handed out depends on nothing but the items. -/
theorem Holds.inPaintOrder_eq {l : DrawList} {items : List DrawItem} (h : Holds l items) :
    l.inPaintOrder.1 = items.insertionSort DrawItem.Under := by
  rw [DrawList.inPaintOrder_eq h.coherent, h.items]

/--
**A draw list hands out what was pushed since it was last cleared, stably sorted by layer.**

That holds after every history of pushes, clears and requests for the order, and at no
time is there a position in the kept order that the list does not have.  Asked again with
no push in between, the list hands out the same items in the same order, unless it was
cleared in the meantime and hands out nothing.
-/
theorem painted_in_order (events : List Event) :
    (∀ i ∈ (run events).order, i < (run events).items.size) ∧
      StablySorted (pushed events) (run events).inPaintOrder.1 ∧
      ∀ more, (∀ event ∈ more, event.item? = none) →
        (run (events ++ .paint :: more)).inPaintOrder.1
          = if .clear ∈ more then [] else (run events).inPaintOrder.1 := by
  have hnow := holds_run events
  refine ⟨hnow.inside, ?_, fun more hmore => ?_⟩
  · rw [hnow.inPaintOrder_eq]
    exact stablySorted_insertionSort _
  · have hlater := holds_run (events ++ .paint :: more)
    have hpushed : pushed (events ++ .paint :: more)
        = if .clear ∈ more then [] else pushed events := by
      have hall : ∀ event ∈ Event.paint :: more, event.item? = none := by simpa using ⟨rfl, hmore⟩
      simpa using pushed_append events hall
    rw [hlater.inPaintOrder_eq, hpushed, hnow.inPaintOrder_eq]
    by_cases hclear : .clear ∈ more
    · rw [if_pos hclear, if_pos hclear, List.insertionSort_nil]
    · rw [if_neg hclear, if_neg hclear]

/-- A list that was cleared, and to which a lower layer was added after its order had been asked
for. -/
def relayered : List Event :=
  [.push Layer.figures (.clear Color.coral), .paint, .clear,
    .push Layer.figures (.clear Color.black), .push Layer.boundingBox (.clear Color.coral), .paint,
    .push Layer.boundingBox (.clear Color.grass), .push Layer.background (.clear Color.black)]

/-- The order that was kept is worked out anew, and after that it is kept. -/
theorem painted_in_order_relayered :
    (run relayered).order = [1, 0] ∧
      (run relayered).inPaintOrder.1
        = [⟨Layer.background, .clear Color.black⟩, ⟨Layer.boundingBox, .clear Color.coral⟩,
            ⟨Layer.boundingBox, .clear Color.grass⟩, ⟨Layer.figures, .clear Color.black⟩] ∧
      StablySorted (pushed relayered) (run relayered).inPaintOrder.1 ∧
      (run (relayered ++ [.paint, .paint])).inPaintOrder.1 = (run relayered).inPaintOrder.1 ∧
      (run (relayered ++ [.paint, .clear])).inPaintOrder.1 = [] := by
  obtain ⟨-, hsorted, hagain⟩ := painted_in_order relayered
  exact ⟨by decide, by decide, hsorted, hagain [.paint] (by decide), hagain [.clear] (by decide)⟩

end DrawList

end DrawingBoard
