import ChartValues.Proofs.Value.Literal
import ChartValues.Proofs.Value.Slots
import ChartValues.Proofs.ValuesFile

set_option autoImplicit false

/-!
# Reading literals back

Texts and keys are written as they are, without any escapes. So a literal may be that of several
values: a quote in a text may look like the end of the text, and a colon in a key like the end of
the key. Where no text and no key does so, a literal is read back from the left: its first character
tells the kind, and every part ends where it first seems to end.

## Main definitions

* `Value.Legible` — the values in which no text and no key seems to end too early.

## Main results

* `Value.Legible.eq_of_literal_append` — a legible value is read back in front of other texts.
* `Value.eq_of_literal_eq` — legible values with the same literal are the same.
* `Value.exists_literal_eq_of_parseValues` — values that are not legible may have the same literal.
-/

namespace ChartValues

/-- The kind of the values whose literals begin with the character. -/
def Kind.ofFirst? (c : Char) : Option Kind :=
  if c = '-' ∨ c.isDigit = true then some .int
  else match c with
    | 'n' => some .mixed
    | 't' | 'f' => some .bool
    | '"' => some .string
    | '[' => some .list
    | '\x7b' => some .object
    | _ => none

/-- Whether a text is written like a value that is not a text, or begins like a collection. -/
def Text.LooksOther (t : Text) : Prop :=
  t ∈ ["null".toList, "true".toList, "false".toList] ∨ (∃ n, t = Text.ofInt n) ∨
    ['['] <+: t ∨ ['\x7b'] <+: t

namespace Value

/-- Whether a literal ends in the slot where it first seems to end. Only texts may fail to. -/
def IsClearIn (slot : Slot) : Value → Prop
  | .text t => slot.IsClear t
  | _ => True

/-- Whether a key ends at the first colon with a space behind it. Keys that are not texts are only
there if `others` allows for them, and then texts may not look like them. -/
def IsClearKey (others : Bool) : Value → Prop
  | .text t => t.contains ": ".toList = false ∧ (others = true → ¬ t.LooksOther)
  | _ => others = true

/-- The values in which no text and no key seems to end too early. They hold no floating-point
numbers and no tags, and keys that are not texts only if `others` allows for them. -/
inductive Legible (others : Bool) : Value → Prop where
  | null : Legible others .null
  | bool (b : Bool) : Legible others (.bool b)
  | int (n : Int) : Legible others (.int n)
  | text (t : Text) : Legible others (.text t)
  | list {items : List Value} (each : ∀ v ∈ items, Legible others v)
      (clear : ∀ v ∈ items, v.IsClearIn .item) : Legible others (.list items)
  /-- The first key may not look like the end of a mapping without entries. -/
  | map {entries : List (Value × Value)} (keys : ∀ e ∈ entries, Legible others e.1)
      (values : ∀ e ∈ entries, Legible others e.2)
      (clearKeys : ∀ e ∈ entries, e.1.IsClearKey others)
      (clear : ∀ e ∈ entries, e.2.IsClearIn .value)
      (first : ∀ e ∈ entries.head?, ¬ ['\x7d'] <+: keyLiteral e.1) : Legible others (.map entries)

variable {others : Bool} {v w : Value}

/-- **The first character of a literal tells the kind.** -/
lemma Legible.ofFirst?_literal (h : v.Legible others) :
    ∃ c rest, v.literal = c :: rest ∧ Kind.ofFirst? c = some v.kind := by
  cases h with
  | null => exact ⟨'n', "ull".toList, rfl, rfl⟩
  | bool b =>
    cases b with
    | true => exact ⟨'t', "rue".toList, rfl, rfl⟩
    | false => exact ⟨'f', "alse".toList, rfl, rfl⟩
  | int n =>
    obtain ⟨c, rest, hn, hc⟩ := Text.exists_ofInt_eq_cons n
    exact ⟨c, rest, hn, if_pos hc⟩
  | text t => exact ⟨'"', t ++ ['"'], rfl, rfl⟩
  | list each clear => exact ⟨'[', _, rfl, rfl⟩
  | map keys values clearKeys clear first => exact ⟨'\x7b', _, rfl, rfl⟩

/-- Legible values with the same literal are of the same kind, also in front of other texts. -/
lemma Legible.kind_eq_of_literal_append (hv : v.Legible others) (hw : w.Legible others)
    {t u : Text} (h : v.literal ++ t = w.literal ++ u) : v.kind = w.kind := by
  obtain ⟨c, x, hx, hc⟩ := hv.ofFirst?_literal
  obtain ⟨d, y, hy, hd⟩ := hw.ofFirst?_literal
  rw [hx, hy] at h
  rw [(List.cons.inj h).1, hd] at hc
  exact (Option.some.inj hc).symm

/-- No literal begins with the closing bracket of a list. -/
lemma Legible.not_prefix_literal_append (h : v.Legible others) (t : Text) :
    ¬ [']'] <+: v.literal ++ t := by
  obtain ⟨c, rest, hliteral, hc⟩ := h.ofFirst?_literal
  rw [hliteral, List.cons_append, List.cons_prefix_cons]
  rintro ⟨rfl, -⟩
  cases hc

/-! ## Values that are not texts -/

/-- A value that is not a text is clear in every slot. -/
lemma isClearIn_of_ne_text (h : ∀ t, v ≠ .text t) (slot : Slot) : v.IsClearIn slot := by
  cases v with
  | text t => exact absurd rfl (h t)
  | _ => trivial

/-- A key that is not a text is only there if others than texts are allowed for. -/
lemma others_eq_true_of_isClearKey (h : v.IsClearKey others) (hne : ∀ t, v ≠ .text t) :
    others = true := by
  cases v with
  | text t => exact absurd rfl (hne t)
  | _ => exact h

/-- A key that is not a text is written as its literal. -/
lemma keyLiteral_eq_literal (h : ∀ t, v ≠ .text t) : v.keyLiteral = v.literal := by
  cases v with
  | text t => exact absurd rfl (h t)
  | _ => rfl

/-! ## Keys -/

/-- Texts that hold no colon with a space behind it are read back up to the next one. -/
lemma eq_of_append_colon {t u x y : Text} (ht : t.contains ": ".toList = false)
    (hu : u.contains ": ".toList = false) (h : t ++ ':' :: ' ' :: x = u ++ ':' :: ' ' :: y) :
    t = u ∧ x = y := by
  obtain ⟨rfl, hrest⟩ := Text.eq_of_append_cons_eq
    (Text.length_le_of_append_cons_eq (by decide) (List.prefix_append [' '] y) ht h.symm)
    (Text.length_le_of_append_cons_eq (by decide) (List.prefix_append [' '] x) hu h) h
  exact ⟨rfl, (List.cons.inj hrest).2⟩

/-- No colon stands in a written integer. -/
lemma contains_ofInt (n : Int) : (Text.ofInt n).contains ": ".toList = false := by
  rw [← Bool.not_eq_true, Text.contains_iff_isInfix]
  intro hpart
  rcases Text.isDigit_or_of_mem_ofInt (hpart.subset (show ':' ∈ ": ".toList by decide)) with h | h
  · exact absurd h (by decide)
  · exact absurd h (by decide)

/-- A key that does not look like a value of another kind is not read as one. -/
lemma Legible.append_colon_ne {t x y : Text} (hclear : t.contains ": ".toList = false)
    (hlooks : ¬ t.LooksOther) (hv : v.Legible others) (hne : ∀ u, v ≠ .text u) :
    t ++ ':' :: ' ' :: x ≠ v.literal ++ ':' :: ' ' :: y := by
  have hbegins : ∀ {c : Char} {rest : Text}, c ≠ ':' → t ++ ':' :: ' ' :: x = c :: rest →
      [c] <+: t := by
    intro c rest hc heq
    cases t with
    | nil => exact absurd (List.cons.inj heq).1.symm hc
    | cons d t =>
      obtain ⟨rfl, -⟩ := List.cons.inj heq
      exact List.prefix_append [d] t
  intro h
  cases hv with
  | null =>
    obtain ⟨rfl, -⟩ := eq_of_append_colon hclear rfl h
    exact hlooks (.inl (by simp [literal]))
  | bool b =>
    have hb : (literal (.bool b)).contains ": ".toList = false := by cases b <;> rfl
    obtain ⟨rfl, -⟩ := eq_of_append_colon hclear hb h
    exact hlooks (.inl (by cases b <;> simp [literal]))
  | int n =>
    obtain ⟨rfl, -⟩ := eq_of_append_colon hclear (contains_ofInt n) h
    exact hlooks (.inr (.inl ⟨n, rfl⟩))
  | text u => exact hne u rfl
  | list each clear => exact hlooks (.inr (.inr (.inl (hbegins (by decide) h))))
  | map keys values clearKeys clear first =>
    exact hlooks (.inr (.inr (.inr (hbegins (by decide) h))))

/-! ## Entries -/

/-- Keys are read back up to their colons, if keys that are not texts are. -/
lemma Legible.eq_of_key_append (hv : v.Legible others) (hw : w.Legible others)
    (hvkey : v.IsClearKey others) (hwkey : w.IsClearKey others)
    (hread : ∀ t u, Slot.key.Follows t → Slot.key.Follows u → (∀ x, v ≠ .text x) →
      (∀ x, w ≠ .text x) → v.literal ++ t = w.literal ++ u → v = w ∧ t = u) {t u : Text}
    (h : v.keyLiteral ++ ':' :: ' ' :: t = w.keyLiteral ++ ':' :: ' ' :: u) : v = w ∧ t = u := by
  have hfollows : ∀ x, Slot.key.Follows (':' :: ' ' :: x) := fun x =>
    .inr (List.prefix_append [':'] (' ' :: x))
  by_cases hvtext : ∃ x, v = .text x
  · obtain ⟨x, rfl⟩ := hvtext
    by_cases hwtext : ∃ y, w = .text y
    · obtain ⟨y, rfl⟩ := hwtext
      obtain ⟨rfl, rfl⟩ := eq_of_append_colon hvkey.1 hwkey.1 h
      exact ⟨rfl, rfl⟩
    · have hwne : ∀ y, w ≠ .text y := fun y hy => hwtext ⟨y, hy⟩
      rw [keyLiteral_eq_literal hwne] at h
      have hlooks := hvkey.2 (others_eq_true_of_isClearKey hwkey hwne)
      exact absurd h (hw.append_colon_ne hvkey.1 hlooks hwne)
  · have hvne : ∀ x, v ≠ .text x := fun x hx => hvtext ⟨x, hx⟩
    rw [keyLiteral_eq_literal hvne] at h
    by_cases hwtext : ∃ y, w = .text y
    · obtain ⟨y, rfl⟩ := hwtext
      have hlooks := hwkey.2 (others_eq_true_of_isClearKey hvkey hvne)
      exact absurd h.symm (hv.append_colon_ne hwkey.1 hlooks hvne)
    · have hwne : ∀ y, w ≠ .text y := fun y hy => hwtext ⟨y, hy⟩
      rw [keyLiteral_eq_literal hwne] at h
      obtain ⟨rfl, hrest⟩ := hread _ _ (hfollows t) (hfollows u) hvne hwne h
      exact ⟨rfl, (List.cons.inj (List.cons.inj hrest).2).2⟩

/-- An entry does not begin with a closing bracket if its key does not. -/
lemma not_prefix_entry {c : Char} (hc : c ≠ ':') {t : Text} (h : ¬ [c] <+: t) (x : Text) :
    ¬ [c] <+: t ++ ':' :: x := by
  cases t with
  | nil =>
    rw [List.nil_append, List.cons_prefix_cons]
    exact fun hprefix => hc hprefix.1
  | cons d t =>
    rw [List.cons_append, List.cons_prefix_cons]
    rintro ⟨rfl, -⟩
    exact h (List.prefix_append [c] t)

/-! ## Values -/

/-- **A legible value is read back in front of other texts**: where its literal stands in a slot, no
other legible value has a literal that begins the same text there, and what follows it is told.

The induction is on the value. What carries it is that every part of a literal is followed by a
comma and a space or by the character that closes its slot, up to which it is read. -/
lemma Legible.eq_of_literal_append (hv : v.Legible others) :
    ∀ {w : Value} {slot : Slot} {t u : Text}, w.Legible others → v.IsClearIn slot →
      w.IsClearIn slot → slot.Follows t → slot.Follows u →
      v.literal ++ t = w.literal ++ u → v = w ∧ t = u := by
  induction hv with
  | null =>
    intro w slot t u hw hvclear hwclear ht hu h
    have hkind := Legible.null.kind_eq_of_literal_append hw h
    cases hw with
    | null => exact ⟨rfl, List.append_cancel_left h⟩
    | _ => cases hkind
  | bool b =>
    intro w slot t u hw hvclear hwclear ht hu h
    have hkind := (Legible.bool b).kind_eq_of_literal_append hw h
    cases hw with
    | bool b' =>
      cases b <;> cases b' <;> first | exact ⟨rfl, List.append_cancel_left h⟩ | cases h
    | _ => cases hkind
  | int n =>
    intro w slot t u hw hvclear hwclear ht hu h
    have hkind := (Legible.int n).kind_eq_of_literal_append hw h
    cases hw with
    | int n' =>
      obtain ⟨rfl, rfl⟩ :=
        Text.eq_of_ofInt_append (Slot.isDigit_of_follows ht) (Slot.isDigit_of_follows hu) h
      exact ⟨rfl, rfl⟩
    | _ => cases hkind
  | text x =>
    intro w slot t u hw hvclear hwclear ht hu h
    have hkind := (Legible.text x).kind_eq_of_literal_append hw h
    cases hw with
    | text y =>
      simp only [literal, List.cons_append, List.append_assoc, List.nil_append, List.cons.injEq,
        true_and] at h
      obtain ⟨rfl, rfl⟩ := Slot.eq_of_quoted hvclear hwclear ht hu h
      exact ⟨rfl, rfl⟩
    | _ => cases hkind
  | list each clear ih =>
    intro w slot t u hw hvclear hwclear ht hu h
    have hkind := (Legible.list each clear).kind_eq_of_literal_append hw h
    cases hw with
    | @list items' each' clear' =>
      simp only [literal_list, List.cons_append, List.append_assoc, List.nil_append,
        List.cons.injEq, true_and] at h
      obtain ⟨rfl, rfl⟩ := Slot.eq_of_row .item
        (fun x hx y hy t u ht hu => ih x hx (each' y hy) (clear x hx) (clear' y hy) ht hu)
        (fun x hx t => (each x (List.mem_of_mem_head? hx)).not_prefix_literal_append t)
        (fun y hy t => (each' y (List.mem_of_mem_head? hy)).not_prefix_literal_append t) h
      exact ⟨rfl, rfl⟩
    | _ => cases hkind
  | @map entries keys values clearKeys clear first ihkeys ihvalues =>
    intro w slot t u hw hvclear hwclear ht hu h
    have hkind :=
      (Legible.map keys values clearKeys clear first).kind_eq_of_literal_append hw h
    cases hw with
    | @map entries' keys' values' clearKeys' clear' first' =>
      simp only [literal_map, List.cons_append, List.append_assoc, List.nil_append,
        List.cons.injEq, true_and] at h
      have hentry : ∀ e ∈ entries, ∀ f ∈ entries', ∀ t u, Slot.value.Follows t →
          Slot.value.Follows u →
          (keyLiteral e.1 ++ ':' :: ' ' :: literal e.2) ++ t =
            (keyLiteral f.1 ++ ':' :: ' ' :: literal f.2) ++ u → e = f ∧ t = u := by
        intro e he f hf t u ht hu h
        rw [List.append_assoc, List.append_assoc] at h
        obtain ⟨hkey, hrest⟩ := (keys e he).eq_of_key_append (keys' f hf) (clearKeys e he)
          (clearKeys' f hf) (fun t u ht hu hene hfne => ihkeys e he (keys' f hf)
            (isClearIn_of_ne_text hene .key) (isClearIn_of_ne_text hfne .key) ht hu) h
        obtain ⟨hvalue, rfl⟩ := ihvalues e he (values' f hf) (clear e he) (clear' f hf) ht hu hrest
        exact ⟨Prod.ext hkey hvalue, rfl⟩
      have hfirst : ∀ e : Value × Value, ¬ ['\x7d'] <+: keyLiteral e.1 → ∀ t : Text,
          ¬ ['\x7d'] <+: (keyLiteral e.1 ++ ':' :: ' ' :: literal e.2) ++ t := by
        intro e he t
        rw [List.append_assoc]
        exact not_prefix_entry (by decide) he _
      obtain ⟨rfl, rfl⟩ := Slot.eq_of_row .value hentry (fun e he => hfirst e (first e he))
        (fun f hf => hfirst f (first' f hf)) h
      exact ⟨rfl, rfl⟩
    | _ => cases hkind

/-- Legible values with the same literal are the same. -/
lemma Legible.eq_of_literal (hv : v.Legible others) (hw : w.Legible others)
    (h : v.literal = w.literal) : v = w := by
  have hkind : v.kind = w.kind :=
    hv.kind_eq_of_literal_append hw (congrArg (fun literal => literal ++ ([] : Text)) h)
  by_cases hvtext : ∃ t, v = .text t
  · -- alone, a text may hold any quotes: its literal ends with the last one
    obtain ⟨t, rfl⟩ := hvtext
    cases hw with
    | text u => rw [List.append_cancel_right (List.cons.inj h).2]
    | _ => cases hkind
  · have hvne : ∀ t, v ≠ .text t := fun t ht => hvtext ⟨t, ht⟩
    have hwne : ∀ t, w ≠ .text t := by
      rintro t rfl
      cases hv with
      | text u => exact hvne u rfl
      | _ => cases hkind
    have hfollows : Slot.item.Follows [']'] := .inr List.prefix_rfl
    have happend : v.literal ++ [']'] = w.literal ++ [']'] := by rw [h]
    exact (hv.eq_of_literal_append hw (isClearIn_of_ne_text hvne .item)
      (isClearIn_of_ne_text hwne .item) hfollows hfollows happend).1

/-- **Legible values are told apart by their literals**, and by the default column, unless both are
mappings that have entries.

**Proof sketch.** A literal is read from the left. Its first character tells the kind
(`Legible.ofFirst?_literal`), digits end where no digit follows, and the rows of collections are
read one by one (`Slot.eq_of_row`), where a text ends at the first quote that a separator or the
closing bracket follows and a key at the first colon that a space follows. The default is a code
span of the literal or the referral. -/
theorem eq_of_literal_eq (hv : v.Legible others) (hw : w.Legible others) :
    (v.literal = w.literal → v = w) ∧
      (v.shown = w.shown → v = w ∨
        (∃ e entries, v = .map (e :: entries)) ∧ ∃ e entries, w = .map (e :: entries)) := by
  have hspan : ∀ t : Text, referral ≠ '\x60' :: t ++ ['\x60'] := fun t h =>
    absurd (List.cons.inj h).1 (by decide)
  refine ⟨hv.eq_of_literal hw, fun h => ?_⟩
  rcases shown_eq_referral_or v with ⟨e, entries, hvmap, hvshown⟩ | hvshown
  · rcases shown_eq_referral_or w with ⟨f, entries', hwmap, -⟩ | hwshown
    · exact .inr ⟨⟨e, entries, hvmap⟩, f, entries', hwmap⟩
    · rw [hvshown, hwshown] at h
      exact absurd h (hspan _)
  · rcases shown_eq_referral_or w with ⟨-, -, -, hwshown⟩ | hwshown
    · rw [hvshown, hwshown] at h
      exact absurd h.symm (hspan _)
    · rw [hvshown, hwshown, List.append_cancel_right_eq, List.cons.injEq] at h
      exact .inl (hv.eq_of_literal hw h.2)

/-- A list with a mapping in it, whose keys are a text and a number. -/
def greetings (greeting : Text) : Value :=
  .list
    [.map [(.text "key".toList, .text greeting), (.int 1, .list [.null, .bool true])], .int (-8)]

/-- Quotes in texts do no harm where nothing behind them looks like the end of the text. -/
lemma legible_greetings {greeting : Text} (h : Slot.value.IsClear greeting) :
    (greetings greeting).Legible true := by
  have hkey : ¬ Text.LooksOther "key".toList := by
    rintro (hmem | ⟨n, hn⟩ | hprefix)
    · exact absurd hmem (by decide)
    · obtain ⟨c, rest, hn', hc⟩ := Text.exists_ofInt_eq_cons n
      rw [hn'] at hn
      rw [← (List.cons.inj hn).1] at hc
      exact absurd hc (by decide)
    · exact absurd hprefix (by decide)
  have hlist : (Value.list [.null, .bool true]).Legible true :=
    .list (by simp [Legible.null, Legible.bool]) (by simp [IsClearIn])
  have hmap : (Value.map [(.text "key".toList, .text greeting),
      (.int 1, .list [.null, .bool true])]).Legible true :=
    .map (by simp [Legible.text, Legible.int]) (by simp [Legible.text, hlist])
      (by
        rintro e (_ | ⟨_, _ | ⟨_, ⟨⟩⟩⟩)
        · exact ⟨rfl, fun _ => hkey⟩
        · exact rfl)
      (by simp [IsClearIn, h]) (by simp [keyLiteral])
  have heach : ∀ v ∈ [_, Value.int (-8)], v.Legible true :=
    List.forall_mem_cons.2 ⟨hmap, List.forall_mem_singleton.2 (.int (-8))⟩
  exact .list heach (by simp [IsClearIn])

/-- One quote more makes a difference. -/
theorem shown_greetings_ne :
    (greetings "say \"hi\"".toList).Legible true ∧ (greetings "say \"hi\"\"".toList).Legible true ∧
      (greetings "say \"hi\"".toList).literal ≠ (greetings "say \"hi\"\"".toList).literal ∧
      (greetings "say \"hi\"".toList).shown ≠ (greetings "say \"hi\"\"".toList).shown := by
  have hv : (greetings "say \"hi\"".toList).Legible true := legible_greetings ⟨rfl, rfl⟩
  have hw : (greetings "say \"hi\"\"".toList).Legible true := legible_greetings ⟨rfl, rfl⟩
  have hne : greetings "say \"hi\"".toList ≠ greetings "say \"hi\"\"".toList := by
    simp [greetings]
  obtain ⟨hliteral, hshown⟩ := eq_of_literal_eq hv hw
  refine ⟨hv, hw, fun h => hne (hliteral h), fun h => ?_⟩
  rcases hshown h with heq | ⟨⟨e, entries, heq⟩, -⟩
  · exact hne heq
  · cases heq

/-! ## Values that are not legible -/

/-- Items that are the same as texts are the texts. -/
lemma eq_of_sameItems_texts {items : List Value} {texts : List Text}
    (h : sameItems items (texts.map .text) = true) : items = texts.map .text := by
  induction items generalizing texts with
  | nil =>
    cases texts with
    | nil => rfl
    | cons t texts => cases h
  | cons x items ih =>
    cases texts with
    | nil => cases h
    | cons t texts =>
      obtain ⟨hx, hrest⟩ := Bool.and_eq_true_iff.1 h
      rw [same_text_iff.1 hx, ih hrest, List.map_cons]

/-- A value that is the same as a list of texts is this list. -/
lemma eq_of_same_texts {texts : List Text} (h : v.same (.list (texts.map .text)) = true) :
    v = .list (texts.map .text) := by
  cases v with
  | list items => rw [eq_of_sameItems_texts h]
  | _ => cases h

/-- A values file with a list of one text, in which quotes stand around a comma. -/
def quotedComma : Text := "- 'a\", \"b'\n".toList

/-- A values file with a list of two texts. -/
def twoLetters : Text := "- a\n- b\n".toList

/-- Two different values with the same literal, for each condition of legibility. -/
def lookAlikes : List (Value × Value) :=
  let text (t : String) : Value := .text t.toList
  [ -- a quote with a separator behind it, in an item and in the value of an entry
    (.list [text "a\", \"b"], .list [text "a", text "b"]),
    (.list [.map [(text "k", text "a\", b")], .map [(text "c", .null)]],
      .list [.map [(text "k", text "a"), (text "b\"\x7d, \x7bc", .null)]]),
    -- a quote with a closing bracket behind it
    (.list [.list [text "a\"], [\"b"]], .list [.list [text "a"], .list [text "b"]]),
    (.list [.map [(text "k", text "a\"\x7d, \x7bk: \"b")]],
      .list [.map [(text "k", text "a")], .map [(text "k", text "b")]]),
    -- a key with a colon and a space in it, and a first key that looks like an end
    (.map [(text "a: 1, b", .int 2)], .map [(text "a", .int 1), (text "b", .int 2)]),
    (.map [(text "x", .map [(text "\x7d, b", .map []), (text "c", .int 1)])],
      .map [(text "x", .map []), (text "b", .map [(text "\x7d, c", .int 1)])]),
    -- keys that look like others
    (.map [(text "null", .int 1)], .map [(.null, .int 1)]),
    (.map [(text "true", .int 1)], .map [(.bool true, .int 1)]),
    (.map [(text "false", .int 1)], .map [(.bool false, .int 1)]),
    (.map [(text "1", .int 1)], .map [(.int 1, .int 1)]),
    (.map [(text "[]", .int 1)], .map [(.list [], .int 1)]),
    (.map [(text "\x7b\x7d", .int 1)], .map [(.map [], .int 1)]) ]

/-- **Values that are not legible may have the same literal**, also those of values files: the list
of one text that looks like two is shown like the list of the two. None of the conditions of
legibility is dispensable. -/
theorem exists_literal_eq_of_parseValues :
    (∃ v w, parseValues quotedComma = .ok v ∧ parseValues twoLetters = .ok w ∧ v ≠ w ∧
        v.literal = w.literal ∧ v.shown = w.shown) ∧
      ∀ p ∈ lookAlikes, p.1 ≠ p.2 ∧ p.1.literal = p.2.literal := by
  have hone : (parseValues quotedComma).toOption.any (fun v =>
      v.same (.list (["a\", \"b".toList].map Value.text))) = true := by decide +kernel
  have htwo : (parseValues twoLetters).toOption.any (fun v =>
      v.same (.list ([['a'], ['b']].map Value.text))) = true := by decide +kernel
  obtain ⟨v, hv, hvsame⟩ := exists_root_of_any hone
  obtain ⟨w, hw, hwsame⟩ := exists_root_of_any htwo
  obtain rfl := eq_of_same_texts hvsame
  obtain rfl := eq_of_same_texts hwsame
  refine ⟨⟨_, _, hv, hw, by simp, rfl, rfl⟩, ?_⟩
  simp only [lookAlikes, List.forall_mem_cons]
  refine ⟨⟨?_, rfl⟩, ⟨?_, rfl⟩, ⟨?_, rfl⟩, ⟨?_, rfl⟩, ⟨?_, rfl⟩, ⟨?_, rfl⟩, ⟨?_, rfl⟩, ⟨?_, rfl⟩,
    ⟨?_, rfl⟩, ⟨?_, rfl⟩, ⟨?_, rfl⟩, ⟨?_, rfl⟩, ?_⟩ <;> simp

end Value

end ChartValues
