import CorpusBench.Data.StrMap
import CorpusBench.Error
import CorpusBench.Text.Blank

/-!
# Mounted widgets

The widgets of a form, by the element they render into, so that widgets that work together (a
map beside its coordinate input) find each other.  An element holds at most one widget, and an
element id must not be blank.

## Main definitions

* `WidgetRegistry` — with `mount`, `replace`, `unmount` and `clear`.

## Main results

* `WidgetRegistry.get_mount` — a mounted widget is found under its element.
-/

namespace CorpusBench

/-- Widgets by element id, in id order. -/
structure WidgetRegistry (α : Type) where
  widgets : StrMap α := []

namespace WidgetRegistry

variable {α : Type}

/-- The widget of an element. -/
def get? (r : WidgetRegistry α) (id : String) : Option α := r.widgets.lookup id

/-- Mount a widget on a free element with a non-blank id. -/
def mount (r : WidgetRegistry α) (id : String) (w : α) : Except ClientError (WidgetRegistry α) :=
  if Text.isBlankText id then .error (.invalidInput "widget element id is empty")
  else if r.widgets.containsKey id then
    .error (.invalidInput ("a widget is already mounted on " ++ id))
  else .ok { widgets := r.widgets.insert id w }

theorem get_mount (r r' : WidgetRegistry α) (id : String) (w : α) (h : r.mount id w = .ok r') :
    r'.get? id = some w := by
  unfold mount at h
  split at h
  · cases h
  · split at h
    · cases h
    · cases h
      exact StrMap.lookup_insert_self id w r.widgets

/-- Replace the widget of an element that holds one; whether it did. -/
def replace (r : WidgetRegistry α) (id : String) (w : α) : Bool × WidgetRegistry α :=
  if r.widgets.containsKey id then (true, { widgets := r.widgets.insert id w }) else (false, r)

/-- Take the widget off an element. -/
def unmount (r : WidgetRegistry α) (id : String) : Option α × WidgetRegistry α :=
  (r.get? id, { widgets := r.widgets.erase id })

/-- Take every widget off, in id order. -/
def clear (r : WidgetRegistry α) : List (String × α) × WidgetRegistry α := (r.widgets, {})

end WidgetRegistry

end CorpusBench
