import Courier.Json.Parser
import Courier.Proofs.Basic
import Courier.Proofs.Number.Value
import Courier.Proofs.Path.Location

/-! JSON texts as they are written: their grammar, and the trees behind them. A tree keeps what a
document drops: the digits of each numeral, and the members whose key comes again. -/

namespace Courier

namespace Json

inductive Source where
  | null
  | bool (b : Bool)
  | number (n : Numeral)
  | string (s : String)
  | array (items : List Source)
  | object (members : List (String × Source))

namespace Source

open Reader

inductive Blanks : List Char → List Char → Prop
  | none {s : List Char} : Blanks s s
  | more {c : Char} {s rest : List Char} (hc : isBlank c = true) (h : Blanks s rest) :
    Blanks (c :: s) rest

theorem Blanks.trans {s t rest : List Char} (h : Blanks s t) (ht : Blanks t rest) :
    Blanks s rest := by
  induction h with
  | none => exact ht
  | more hc _ ih => exact .more hc (ih ht)

/-- A key, up to its colon and what is blank behind it. Keys and strings end, and are unescaped, as
the reader of strings says. -/
inductive Key : String → List Char → List Char → Prop
  | intro {k : String} {s t u rest : List Char} (hk : stringBody [] s = .ok (k, t))
    (hc : Blanks t (':' :: u)) (hb : Blanks u rest) : Key k ('"' :: s) rest

mutual

inductive Spells : Source → List Char → List Char → Prop
  | null {rest : List Char} : Spells null ('n' :: 'u' :: 'l' :: 'l' :: rest) rest
  | true {rest : List Char} : Spells (bool true) ('t' :: 'r' :: 'u' :: 'e' :: rest) rest
  | false {rest : List Char} : Spells (bool false) ('f' :: 'a' :: 'l' :: 's' :: 'e' :: rest) rest
  | number {n : Numeral} {t rest : List Char} (h : n.Spelled t) : Spells (number n) (t ++ rest) rest
  | string {v : String} {s rest : List Char} (h : stringBody [] s = .ok (v, rest)) :
    Spells (string v) ('"' :: s) rest
  | array {ws : List Source} {s rest : List Char} (h : SpellsItems true ws s rest) :
    Spells (array ws) ('[' :: s) rest
  | object {ms : List (String × Source)} {s rest : List Char} (h : SpellsMembers true ms s rest) :
    Spells (object ms) ('{' :: s) rest

/-- What is left of a list, from its first item or from behind an item on. -/
inductive SpellsItems : Bool → List Source → List Char → List Char → Prop
  | close {first : Bool} {s rest : List Char} (h : Blanks s (']' :: rest)) :
    SpellsItems first [] s rest
  | first {w : Source} {ws : List Source} {s t u rest : List Char} (hb : Blanks s t)
    (hw : Spells w t u) (hr : SpellsItems false ws u rest) : SpellsItems true (w :: ws) s rest
  | next {w : Source} {ws : List Source} {s c t u rest : List Char} (hc : Blanks s (',' :: c))
    (hb : Blanks c t) (hw : Spells w t u) (hr : SpellsItems false ws u rest) :
    SpellsItems false (w :: ws) s rest

/-- What is left of an object, from its first member or from behind a member on. -/
inductive SpellsMembers : Bool → List (String × Source) → List Char → List Char → Prop
  | close {first : Bool} {s rest : List Char} (h : Blanks s ('}' :: rest)) :
    SpellsMembers first [] s rest
  | first {k : String} {w : Source} {ms : List (String × Source)} {s a t u rest : List Char}
    (hb : Blanks s a) (hk : Key k a t) (hw : Spells w t u) (hr : SpellsMembers false ms u rest) :
    SpellsMembers true ((k, w) :: ms) s rest
  | next {k : String} {w : Source} {ms : List (String × Source)} {s c a t u rest : List Char}
    (hc : Blanks s (',' :: c)) (hb : Blanks c a) (hk : Key k a t) (hw : Spells w t u)
    (hr : SpellsMembers false ms u rest) : SpellsMembers false ((k, w) :: ms) s rest

end

/-- The whole of a text is one value. -/
def IsDocument (w : Source) (s : List Char) : Prop :=
  ∃ t rest, Blanks s t ∧ Spells w t rest ∧ Blanks rest []

/-- Of members with one key the last one counts. -/
def child? : Source → Step → Option Source
  | object members, .field k => Fields.find? k members.reverse
  | array items, .item i => items[i]?
  | _, _ => none

def get? (w : Source) : Location → Option Source
  | [] => some w
  | s :: q => (w.child? s).bind (get? · q)

theorem get?_cons (w : Source) (s : Step) (q : Location) :
    w.get? (s :: q) = (w.child? s).bind (get? · q) := rfl

mutual

def evaluate : Source → Option Json
  | null => some .null
  | bool b => some (.bool b)
  | number n => n.value.toOption.map .number
  | string s => some (.string s)
  | array items => (evaluateItems items).map .array
  | object members => (evaluateMembers [] members).map .object

def evaluateItems : List Source → Option (List Json)
  | [] => some []
  | w :: ws => (evaluate w).bind fun v => (evaluateItems ws).map (v :: ·)

def evaluateMembers (fields : List (String × Json)) :
    List (String × Source) → Option (List (String × Json))
  | [] => some fields
  | (k, w) :: ms => (evaluate w).bind fun v => evaluateMembers (Fields.insert k v fields) ms

end

mutual

def nesting : Source → Nat
  | null | bool _ | number _ | string _ => 0
  | array items => itemsNesting items + 1
  | object members => membersNesting members + 1

def itemsNesting : List Source → Nat
  | [] => 0
  | w :: ws => max (nesting w) (itemsNesting ws)

def membersNesting : List (String × Source) → Nat
  | [] => 0
  | (_, w) :: ms => max (nesting w) (membersNesting ms)

end

theorem forall₂_of_evaluateItems {ws : List Source} {vs : List Json}
    (h : evaluateItems ws = some vs) : List.Forall₂ (fun w v => w.evaluate = some v) ws vs := by
  induction ws generalizing vs with
  | nil =>
    cases h
    exact .nil
  | cons w ws ih =>
    rw [evaluateItems] at h
    obtain ⟨v, hv, h⟩ := Option.bind_eq_some_iff.1 h
    obtain ⟨us, hu, rfl⟩ := Option.map_eq_some_iff.1 h
    exact .cons hv (ih hu)

/-- Under each key stands what the last member with this key is read as. -/
theorem find?_evaluateMembers {ms : List (String × Source)} {before fields : List (String × Json)}
    (h : evaluateMembers before ms = some fields) (k : String) :
    match Fields.find? k ms.reverse with
    | some w => ∃ v, Fields.find? k fields = some v ∧ w.evaluate = some v
    | none => Fields.find? k fields = Fields.find? k before := by
  induction ms generalizing before with
  | nil =>
    cases h
    rfl
  | cons m ms ih =>
    obtain ⟨key, w⟩ := m
    rw [evaluateMembers] at h
    obtain ⟨v, hv, h⟩ := Option.bind_eq_some_iff.1 h
    have hlast := ih h
    rw [List.reverse_cons, Fields.find?_append]
    cases hm : Fields.find? k ms.reverse with
    | some u =>
      rw [hm] at hlast
      exact hlast
    | none =>
      rw [hm] at hlast
      by_cases hk : key = k
      · subst hk
        have hf : Fields.find? key fields = some v := hlast.trans (Fields.find?_insert_self key v _)
        simpa [Fields.find?, hf] using hv
      · have hf : Fields.find? k fields = Fields.find? k before :=
          hlast.trans (Fields.find?_insert_of_ne (Ne.symm hk) v before)
        simpa [Fields.find?, hk] using hf

section

variable {w u : Source} {doc d : Json} {s : Step}

theorem child?_of_evaluate (h : w.evaluate = some doc) (hu : w.child? s = some u) :
    ∃ d, doc.child? s = some d ∧ u.evaluate = some d := by
  cases w with
  | array items =>
    cases s with
    | field k => cases hu
    | item i =>
      obtain ⟨vs, hv, rfl⟩ := Option.map_eq_some_iff.1 h
      have hall := forall₂_of_evaluateItems hv
      obtain ⟨hi, rfl⟩ := List.getElem?_eq_some_iff.1 hu
      have hlt : i < vs.length := by rwa [← hall.length_eq]
      exact ⟨vs[i], List.getElem?_eq_getElem hlt, hall.get hi hlt⟩
  | object members =>
    cases s with
    | field k =>
      obtain ⟨fields, hf, rfl⟩ := Option.map_eq_some_iff.1 h
      have hk := find?_evaluateMembers hf k
      have hu : Fields.find? k members.reverse = some u := hu
      rw [hu] at hk
      exact hk
    | item i => cases hu
  | _ => cases s <;> cases hu

theorem get?_of_evaluate {q : Location} (h : w.evaluate = some doc) (hu : w.get? q = some u) :
    ∃ d, doc.get? q = some d ∧ u.evaluate = some d := by
  induction q generalizing w doc with
  | nil =>
    cases hu
    exact ⟨doc, rfl, h⟩
  | cons s q ih =>
    obtain ⟨x, hx, hu⟩ := Option.bind_eq_some_iff.1 hu
    obtain ⟨e, he, hxe⟩ := child?_of_evaluate h hx
    obtain ⟨d, hd, hv⟩ := ih hxe hu
    exact ⟨d, by rw [Json.get?_cons, he]; exact hd, hv⟩

theorem exists_of_child?_evaluate (h : w.evaluate = some doc) (hd : doc.child? s = some d) :
    ∃ u : Source, u.evaluate = some d := by
  cases w with
  | array items =>
    obtain ⟨vs, hv, rfl⟩ := Option.map_eq_some_iff.1 h
    cases s with
    | field k => cases hd
    | item i =>
      have hall := forall₂_of_evaluateItems hv
      obtain ⟨hi, rfl⟩ := List.getElem?_eq_some_iff.1 hd
      have hlt : i < items.length := by rwa [hall.length_eq]
      exact ⟨items[i], hall.get hlt hi⟩
  | object members =>
    obtain ⟨fields, hf, rfl⟩ := Option.map_eq_some_iff.1 h
    cases s with
    | field k =>
      have hk := find?_evaluateMembers hf k
      have hd : Fields.find? k fields = some d := hd
      rw [hd] at hk
      split at hk
      · next u _ =>
        obtain ⟨v, hv, hu⟩ := hk
        exact ⟨u, by rw [hu, hv]⟩
      · cases hk
    | item i => cases hd
  | number n =>
    obtain ⟨x, -, rfl⟩ := Option.map_eq_some_iff.1 h
    cases s <;> cases hd
  | null | bool | string =>
    cases h
    cases s <;> cases hd

end

end Source

/-- As it is read: no object has two fields with one key, and numbers are rounded. -/
def Regular : Json → Prop
  | object fields => (fields.map Prod.fst).Nodup
  | number n => n.Canonical
  | _ => True

theorem nodup_evaluateMembers {ms : List (String × Source)} {before fields : List (String × Json)}
    (h : Source.evaluateMembers before ms = some fields) (hn : (before.map Prod.fst).Nodup) :
    (fields.map Prod.fst).Nodup := by
  induction ms generalizing before with
  | nil =>
    cases h
    exact hn
  | cons m ms ih =>
    rw [Source.evaluateMembers] at h
    obtain ⟨v, -, h⟩ := Option.bind_eq_some_iff.1 h
    exact ih h (Fields.nodup_insert hn m.1 v)

theorem regular_of_evaluate {w : Source} {doc : Json} (h : w.evaluate = some doc) :
    doc.Throughout Regular := by
  intro q
  induction q generalizing w doc with
  | nil =>
    rintro d ⟨⟩
    cases w with
    | object members =>
      obtain ⟨fields, hf, rfl⟩ := Option.map_eq_some_iff.1 h
      exact nodup_evaluateMembers hf List.nodup_nil
    | array items =>
      obtain ⟨vs, -, rfl⟩ := Option.map_eq_some_iff.1 h
      trivial
    | number n =>
      obtain ⟨x, hx, rfl⟩ := Option.map_eq_some_iff.1 h
      exact Numeral.canonical_value (Except.toOption_eq_some.1 hx)
    | null | bool | string =>
      cases h
      trivial
  | cons s q ih =>
    intro d hd
    obtain ⟨e, he, hd⟩ := Option.bind_eq_some_iff.1 hd
    obtain ⟨u, hu⟩ := Source.exists_of_child?_evaluate h he
    exact ih hu d hd

end Json

end Courier
