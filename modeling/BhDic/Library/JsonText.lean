import BhDic.Library.Json

/-!
# The canonical text of a JSON value

`render` writes a value with no blanks; `dumps` writes its canonical form. The point of the module
is `dumps_injective`: two values written alike are the same document. It rests on `render` being
uniquely decodable: a text that starts with the rendering of a value, and goes on with a comma or
a closing bracket, does so for one value only.
-/

namespace BhDic.Library

/-- One hexadecimal digit, in lower case. -/
def hexDigit (n : Nat) : Char := ['0', '1', '2', '3', '4', '5', '6', '7', '8', '9', 'a', 'b', 'c',
  'd', 'e', 'f'].getD n '0'

/-- `\uXXXX`. -/
def unicodeEscape (n : Nat) : List Char :=
  ['\\', 'u', hexDigit (n / 4096 % 16), hexDigit (n / 256 % 16), hexDigit (n / 16 % 16),
    hexDigit (n % 16)]

/-- The letter of a two-character escape, for the characters that have one. -/
def shortEscape (c : Char) : Option Char :=
  if c = '"' then some '"' else if c = '\\' then some '\\' else if c = '\n' then some 'n'
  else if c = '\r' then some 'r' else if c = '\t' then some 't' else if c = '\x08' then some 'b'
  else if c = '\x0c' then some 'f' else none

/-- How one character stands in a string. With `ascii`, everything outside the printable range is
escaped, beyond the basic plane as a surrogate pair. -/
def escapeChar (ascii : Bool) (c : Char) : List Char :=
  match shortEscape c with
  | some e => ['\\', e]
  | none =>
      if c.toNat < 0x20 then unicodeEscape c.toNat
      else if ascii && 0x7f ≤ c.toNat then
        if c.toNat < 0x10000 then unicodeEscape c.toNat
        else
          unicodeEscape (0xd800 + (c.toNat - 0x10000) / 0x400) ++
            unicodeEscape (0xdc00 + (c.toNat - 0x10000) % 0x400)
      else [c]

def quote (ascii : Bool) (s : String) : List Char :=
  '"' :: (s.toList.flatMap (escapeChar ascii) ++ ['"'])

/-- A decimal integer. -/
def renderInt (n : Int) : List Char :=
  if n < 0 then '-' :: Nat.toDigits 10 n.natAbs else Nat.toDigits 10 n.natAbs

/-- What stands before an item: nothing before the first, a comma before the others. -/
def comma (first : Bool) : List Char := if first then [] else [',']

mutual

/-- The text of a value, fields in the order they have. -/
def Json.render (ascii : Bool) : Json → List Char
  | .null => ['n', 'u', 'l', 'l']
  | .bool true => ['t', 'r', 'u', 'e']
  | .bool false => ['f', 'a', 'l', 's', 'e']
  | .int n => renderInt n
  | .float f => f.chars
  | .str s => quote ascii s
  | .arr items => '[' :: renderItems ascii true items
  | .obj fields => '{' :: renderFields ascii true fields

/-- The items of an array, up to and including its closing bracket. -/
def renderItems (ascii first : Bool) : List Json → List Char
  | [] => [']']
  | v :: vs => comma first ++ (v.render ascii ++ renderItems ascii false vs)

/-- The fields of an object, up to and including its closing brace. -/
def renderFields (ascii first : Bool) : List (String × Json) → List Char
  | [] => ['}']
  | (k, v) :: rest =>
      comma first ++ (quote ascii k ++ ':' :: (v.render ascii ++ renderFields ascii false rest))

end

mutual

/-- What `json.dumps` writes with `allow_nan=False`: no infinity, no `NaN`, and no integer of more
digits than `str` writes. -/
def Json.isWritable (limit : Nat) : Json → Bool
  | .int n => (Nat.toDigits 10 n.natAbs).length ≤ limit
  | .float f => f.isFinite
  | .arr items => writableItems limit items
  | .obj fields => writableFields limit fields
  | _ => true

def writableItems (limit : Nat) : List Json → Bool
  | [] => true
  | v :: vs => v.isWritable limit && writableItems limit vs

def writableFields (limit : Nat) : List (String × Json) → Bool
  | [] => true
  | (_, v) :: rest => v.isWritable limit && writableFields limit rest

end

/-- The canonical text of a value. -/
def dumps (ascii : Bool) (v : Json) : List Char := v.canon.render ascii

/-! ## Unique decoding of a string -/

/-- The character a two-character escape stands for. -/
def unescape (e : Char) : Option Char :=
  if e = '"' then some '"' else if e = '\\' then some '\\' else if e = 'n' then some '\n'
  else if e = 'r' then some '\r' else if e = 't' then some '\t' else if e = 'b' then some '\x08'
  else if e = 'f' then some '\x0c' else none

theorem unescape_shortEscape {c e : Char} (h : shortEscape c = some e) :
    unescape e = some c := by
  unfold shortEscape at h
  split_ifs at h <;> cases h <;> subst_vars <;> rfl

private theorem hexDigit_injective : ∀ n < 16, ∀ m < 16, hexDigit n = hexDigit m → n = m := by
  decide

private theorem unicodeEscape_unique {n m : Nat} {x y : List Char} (hn : n < 0x10000)
    (hm : m < 0x10000) (h : unicodeEscape n ++ x = unicodeEscape m ++ y) : n = m ∧ x = y := by
  simp only [unicodeEscape, List.cons_append, List.nil_append, List.cons.injEq, true_and] at h
  obtain ⟨h₃, h₂, h₁, h₀, hxy⟩ := h
  have h₃' := hexDigit_injective _ (Nat.mod_lt _ (by decide)) _ (Nat.mod_lt _ (by decide)) h₃
  have h₂' := hexDigit_injective _ (Nat.mod_lt _ (by decide)) _ (Nat.mod_lt _ (by decide)) h₂
  have h₁' := hexDigit_injective _ (Nat.mod_lt _ (by decide)) _ (Nat.mod_lt _ (by decide)) h₁
  have h₀' := hexDigit_injective _ (Nat.mod_lt _ (by decide)) _ (Nat.mod_lt _ (by decide)) h₀
  exact ⟨by omega, hxy⟩

/-- The four ways a character can be written. -/
private inductive Escaped (c : Char) : List Char → Prop
  | short (e : Char) : shortEscape c = some e → Escaped c ['\\', e]
  | basic : c.toNat < 0x10000 → Escaped c (unicodeEscape c.toNat)
  | pair : 0x10000 ≤ c.toNat →
      Escaped c (unicodeEscape (0xd800 + (c.toNat - 0x10000) / 0x400) ++
        unicodeEscape (0xdc00 + (c.toNat - 0x10000) % 0x400))
  | plain : c ≠ '\\' → c ≠ '"' → Escaped c [c]

private theorem escaped_escapeChar (ascii : Bool) (c : Char) : Escaped c (escapeChar ascii c) := by
  unfold escapeChar
  split
  · exact .short _ (by assumption)
  · rename_i hshort
    split_ifs with h₁ h₂ h₃
    · exact .basic (by omega)
    · exact .basic h₃
    · exact .pair (by omega)
    · refine .plain ?_ ?_ <;> rintro rfl <;> cases hshort

theorem toNat_lt (c : Char) : c.toNat < 0x110000 := by
  have := c.valid
  simp only [UInt32.isValidChar, Nat.isValidChar] at this
  show c.val.toNat < _
  omega

/-- No character is a surrogate. -/
private theorem toNat_not_surrogate (c : Char) : c.toNat < 0xd800 ∨ 0xdfff < c.toNat := by
  have := c.valid
  simp only [UInt32.isValidChar, Nat.isValidChar] at this
  show c.val.toNat < _ ∨ _ < c.val.toNat
  omega

private theorem short_ne_u {c e : Char} (h : shortEscape c = some e) : e ≠ 'u' := by
  rintro rfl
  cases unescape_shortEscape h

private theorem escaped_unique {c d : Char} {l m x y : List Char} (hc : Escaped c l)
    (hd : Escaped d m) (h : l ++ x = m ++ y) : c = d ∧ x = y := by
  have hcn := toNat_lt c
  have hdn := toNat_lt d
  have hcs := toNat_not_surrogate c
  have hds := toNat_not_surrogate d
  have heq : c.toNat = d.toNat → c = d := fun h => Char.toNat_inj.mp h
  cases hc with
  | short e he =>
      cases hd with
      | short e' he' =>
          simp only [List.cons_append, List.nil_append, List.cons.injEq, true_and] at h
          have hcd := unescape_shortEscape he
          rw [h.1, unescape_shortEscape he'] at hcd
          exact ⟨(Option.some.inj hcd).symm, h.2⟩
      | basic _ => exact absurd (List.cons.inj (List.cons.inj h).2).1 (short_ne_u he)
      | pair _ => exact absurd (List.cons.inj (List.cons.inj h).2).1 (short_ne_u he)
      | plain hne _ => exact absurd (List.cons.inj h).1.symm hne
  | basic hlt =>
      cases hd with
      | short e' he' =>
          exact absurd (List.cons.inj (List.cons.inj h).2).1.symm (short_ne_u he')
      | basic hlt' =>
          obtain ⟨hn, hxy⟩ := unicodeEscape_unique hlt hlt' h
          exact ⟨heq hn, hxy⟩
      | pair hle' =>
          rw [List.append_assoc] at h
          have := (unicodeEscape_unique hlt (by omega) h).1
          omega
      | plain hne _ => exact absurd (List.cons.inj h).1.symm hne
  | pair hle =>
      cases hd with
      | short e' he' =>
          exact absurd (List.cons.inj (List.cons.inj h).2).1.symm (short_ne_u he')
      | basic hlt' =>
          rw [List.append_assoc] at h
          have := (unicodeEscape_unique (by omega) hlt' h).1
          omega
      | pair hle' =>
          rw [List.append_assoc, List.append_assoc] at h
          obtain ⟨hhi, h⟩ := unicodeEscape_unique (by omega) (by omega) h
          obtain ⟨hlo, hxy⟩ := unicodeEscape_unique (by omega) (by omega) h
          exact ⟨heq (by omega), hxy⟩
      | plain hne _ => exact absurd (List.cons.inj h).1.symm hne
  | plain hne hnq =>
      cases hd with
      | short _ _ => exact absurd (List.cons.inj h).1 hne
      | basic _ => exact absurd (List.cons.inj h).1 hne
      | pair _ => exact absurd (List.cons.inj h).1 hne
      | plain _ _ => exact List.cons.inj h

private theorem escaped_head {c : Char} {l : List Char} (h : Escaped c l) :
    ∃ e rest, l = e :: rest ∧ e ≠ '"' := by
  cases h with
  | short e _ => exact ⟨_, _, rfl, by decide⟩
  | basic _ => exact ⟨_, _, rfl, by decide⟩
  | pair _ => exact ⟨_, _, rfl, by decide⟩
  | plain _ hnq => exact ⟨_, _, rfl, hnq⟩

private theorem body_unique {ascii : Bool} {cs ds r r' : List Char}
    (h : cs.flatMap (escapeChar ascii) ++ '"' :: r = ds.flatMap (escapeChar ascii) ++ '"' :: r') :
    cs = ds ∧ r = r' := by
  induction cs generalizing ds with
  | nil =>
      cases ds with
      | nil => exact ⟨rfl, (List.cons.inj h).2⟩
      | cons d ds =>
          obtain ⟨e, rest, he, hne⟩ := escaped_head (escaped_escapeChar ascii d)
          rw [List.flatMap_cons, he] at h
          exact absurd (List.cons.inj h).1.symm hne
  | cons c cs ih =>
      cases ds with
      | nil =>
          obtain ⟨e, rest, he, hne⟩ := escaped_head (escaped_escapeChar ascii c)
          rw [List.flatMap_cons, he] at h
          exact absurd (List.cons.inj h).1 hne
      | cons d ds =>
          rw [List.flatMap_cons, List.flatMap_cons, List.append_assoc, List.append_assoc] at h
          obtain ⟨rfl, hrest⟩ :=
            escaped_unique (escaped_escapeChar ascii c) (escaped_escapeChar ascii d) h
          obtain ⟨rfl, hr⟩ := ih hrest
          exact ⟨rfl, hr⟩

theorem quote_unique {ascii : Bool} {s t : String} {r r' : List Char}
    (h : quote ascii s ++ r = quote ascii t ++ r') : s = t ∧ r = r' := by
  simp only [quote, List.cons_append, List.append_assoc, List.cons.injEq, true_and] at h
  obtain ⟨hst, hr⟩ := body_unique h
  exact ⟨String.toList_inj.mp hst, hr⟩

/-! ## Unique decoding of a number -/

/-- The text goes on, if at all, with a character that ends a value. -/
def Stops (r : List Char) : Prop := ∀ c, r.head? = some c → c = ',' ∨ c = ']' ∨ c = '}'

private theorem takeWhile_number {l r : List Char} (hl : ∀ c ∈ l, isNumberChar c) (hr : Stops r) :
    (l ++ r).takeWhile isNumberChar = l := by
  rw [List.takeWhile_append_of_pos hl]
  cases r with
  | nil => simp
  | cons c r =>
      have hc : isNumberChar c = false := by
        rcases hr c rfl with rfl | rfl | rfl <;> decide
      rw [List.takeWhile_cons_of_neg (by simp [hc]), List.append_nil]

private theorem number_unique {l l' r r' : List Char} (hl : ∀ c ∈ l, isNumberChar c)
    (hl' : ∀ c ∈ l', isNumberChar c) (hr : Stops r) (hr' : Stops r') (h : l ++ r = l' ++ r') :
    l = l' ∧ r = r' := by
  have heq : l = l' := by
    rw [← takeWhile_number hl hr, h, takeWhile_number hl' hr']
  subst heq
  exact ⟨rfl, List.append_cancel_left h⟩

private theorem digit_mem_renderInt {n : Int} {c : Char} (h : c ∈ renderInt n) :
    c.isDigit ∨ c = '-' := by
  unfold renderInt at h
  split at h
  · rcases List.mem_cons.mp h with h | h
    · exact .inr h
    · exact .inl (Nat.isDigit_of_mem_toDigits (by decide) (by decide) h)
  · exact .inl (Nat.isDigit_of_mem_toDigits (by decide) (by decide) h)

private theorem renderInt_numeral (n : Int) : ∀ c ∈ renderInt n, isNumberChar c := by
  intro c hc
  rcases digit_mem_renderInt hc with h | rfl
  · simp [isNumberChar, h]
  · decide

theorem renderInt_injective {n m : Int} (h : renderInt n = renderInt m) : n = m := by
  have hinj : ∀ {a b : Nat}, Nat.toDigits 10 a = Nat.toDigits 10 b → a = b := by
    intro a b hab
    have ha := Nat.ofDigitChars_ten_toDigits (n := a)
    rw [hab, Nat.ofDigitChars_ten_toDigits] at ha
    exact ha.symm
  have hdash : ∀ {a : Nat} {rest : List Char}, Nat.toDigits 10 a ≠ '-' :: rest := by
    intro a rest hab
    have := Nat.isDigit_of_mem_toDigits (b := 10) (n := a) (c := '-') (by decide) (by decide)
      (by rw [hab]; exact List.mem_cons_self)
    exact absurd this (by decide)
  unfold renderInt at h
  split at h <;> split at h
  · have := hinj (List.cons.inj h).2
    omega
  · exact absurd h.symm hdash
  · exact absurd h hdash
  · have := hinj h
    omega

/-! ## Unique decoding of a value -/

/-- Which kind of value a first character announces: `null`, `true`, `false`, a string, an array,
an object, a number, or none. -/
def kindOfChar (c : Char) : Nat :=
  if c = 'n' then 0 else if c = 't' then 1 else if c = 'f' then 2 else if c = '"' then 3
  else if c = '[' then 4 else if c = '{' then 5
  else if c.isDigit ∨ c ∈ ['-', 'I', 'N'] then 6 else 7

def kind : Json → Nat
  | .null => 0
  | .bool true => 1
  | .bool false => 2
  | .str _ => 3
  | .arr _ => 4
  | .obj _ => 5
  | .int _ | .float _ => 6

private theorem kindOfChar_number {c : Char} (h : c.isDigit ∨ c ∈ ['-', 'I', 'N']) :
    kindOfChar c = 6 := by
  have hnot : ∀ d ∈ ['n', 't', 'f', '"', '[', '{'], ¬(d.isDigit ∨ d ∈ ['-', 'I', 'N']) := by
    simp [Char.isDigit]
  have hne : ∀ d ∈ ['n', 't', 'f', '"', '[', '{'], c ≠ d := by
    rintro d hd rfl
    exact hnot _ hd h
  simp only [List.mem_cons, List.not_mem_nil, or_false, forall_eq_or_imp, forall_eq] at hne
  obtain ⟨h₁, h₂, h₃, h₄, h₅, h₆⟩ := hne
  simp only [kindOfChar, if_neg h₁, if_neg h₂, if_neg h₃, if_neg h₄, if_neg h₅, if_neg h₆, if_pos h]

/-- A value's text starts with a character that tells its kind. -/
theorem render_head (ascii : Bool) (v : Json) :
    ∃ c rest, v.render ascii = c :: rest ∧ kindOfChar c = kind v := by
  cases v with
  | null => exact ⟨_, _, rfl, rfl⟩
  | bool b => cases b <;> exact ⟨_, _, rfl, rfl⟩
  | int n =>
      cases hn : renderInt n with
      | nil =>
          unfold renderInt at hn
          split at hn
          · cases hn
          · exact absurd hn Nat.toDigits_ne_nil
      | cons c rest =>
          refine ⟨c, rest, hn, kindOfChar_number ?_⟩
          rcases digit_mem_renderInt (hn ▸ List.mem_cons_self) with h | rfl
          · exact .inl h
          · exact .inr List.mem_cons_self
  | float f =>
      obtain ⟨c, rest, hf, hc⟩ := f.starts
      exact ⟨c, rest, hf, kindOfChar_number hc⟩
  | str s => exact ⟨_, _, rfl, rfl⟩
  | arr items => exact ⟨_, _, rfl, rfl⟩
  | obj fields => exact ⟨_, _, rfl, rfl⟩

private theorem kind_eq {ascii : Bool} {v w : Json} {r r' : List Char}
    (h : v.render ascii ++ r = w.render ascii ++ r') : kind v = kind w := by
  obtain ⟨c, rest, hv, hc⟩ := render_head ascii v
  obtain ⟨d, rest', hw, hd⟩ := render_head ascii w
  rw [hv, hw] at h
  rw [← hc, ← hd, (List.cons.inj h).1]

/-- A value's text does not start with a closing bracket or a comma. -/
private theorem render_ne {ascii : Bool} {v : Json} {c : Char} {r r' : List Char}
    (hc : kindOfChar c = 7) : v.render ascii ++ r ≠ c :: r' := by
  intro h
  obtain ⟨d, rest, hv, hd⟩ := render_head ascii v
  rw [hv] at h
  rw [← (List.cons.inj h).1] at hc
  rw [hc] at hd
  cases v with
  | bool b => cases b <;> cases hd
  | _ => cases hd

theorem stops_renderItems (ascii : Bool) (vs : List Json) (r : List Char) :
    Stops (renderItems ascii false vs ++ r) := by
  cases vs with
  | nil => rintro c ⟨⟩; exact .inr (.inl rfl)
  | cons v vs => rintro c ⟨⟩; exact .inl rfl

theorem stops_renderFields (ascii : Bool) (fs : List (String × Json)) (r : List Char) :
    Stops (renderFields ascii false fs ++ r) := by
  cases fs with
  | nil => rintro c ⟨⟩; exact .inr (.inr rfl)
  | cons f fs => rintro c ⟨⟩; exact .inl rfl

private theorem int_ne_float {n : Int} {f : FloatText} : renderInt n ≠ f.chars := by
  intro h
  obtain ⟨c, hc, hmark⟩ := f.marked
  rw [← h] at hc
  have hnot : ∀ d ∈ ['.', 'e', 'I', 'N'], ¬(d.isDigit ∨ d = '-') := by
    simp [Char.isDigit]
  exact hnot c hmark (digit_mem_renderInt hc)

mutual

/-- What follows a value is not part of it: the induction is on the first value. -/
private theorem render_unique {ascii : Bool} : ∀ {v w : Json} {r r' : List Char}, Stops r →
    Stops r' → v.render ascii ++ r = w.render ascii ++ r' → v = w ∧ r = r'
  | .null, w, r, r', _, _, h => by
      cases w with
      | null => simpa [Json.render] using h
      | bool b => cases b <;> cases kind_eq h
      | _ => cases kind_eq h
  | .bool b, w, r, r', _, _, h => by
      cases w with
      | bool b' =>
          have hb : b = b' := by cases b <;> cases b' <;> first | rfl | cases kind_eq h
          subst hb
          exact ⟨rfl, List.append_cancel_left h⟩
      | _ => cases b <;> cases kind_eq h
  | .int n, w, r, r', hr, hr', h => by
      cases w with
      | int m =>
          obtain ⟨hnm, hrr⟩ :=
            number_unique (renderInt_numeral n) (renderInt_numeral m) hr hr' h
          exact ⟨congrArg Json.int (renderInt_injective hnm), hrr⟩
      | float f =>
          exact absurd (number_unique (renderInt_numeral n) f.numeral hr hr' h).1 int_ne_float
      | bool b => cases b <;> cases kind_eq h
      | _ => cases kind_eq h
  | .float f, w, r, r', hr, hr', h => by
      cases w with
      | int m =>
          exact absurd (number_unique f.numeral (renderInt_numeral m) hr hr' h).1.symm int_ne_float
      | float g =>
          obtain ⟨hfg, hrr⟩ := number_unique f.numeral g.numeral hr hr' h
          refine ⟨?_, hrr⟩
          cases f
          cases g
          cases hfg
          rfl
      | bool b => cases b <;> cases kind_eq h
      | _ => cases kind_eq h
  | .str s, w, r, r', _, _, h => by
      cases w with
      | str t =>
          obtain ⟨hst, hrr⟩ := quote_unique h
          exact ⟨congrArg Json.str hst, hrr⟩
      | bool b => cases b <;> cases kind_eq h
      | _ => cases kind_eq h
  | .arr vs, w, r, r', _, _, h => by
      cases w with
      | arr ws =>
          obtain ⟨hvw, hrr⟩ := renderItems_unique (List.cons.inj h).2
          exact ⟨congrArg Json.arr hvw, hrr⟩
      | bool b => cases b <;> cases kind_eq h
      | _ => cases kind_eq h
  | .obj fs, w, r, r', _, _, h => by
      cases w with
      | obj gs =>
          obtain ⟨hfg, hrr⟩ := renderFields_unique (List.cons.inj h).2
          exact ⟨congrArg Json.obj hfg, hrr⟩
      | bool b => cases b <;> cases kind_eq h
      | _ => cases kind_eq h

private theorem renderItems_unique {ascii first : Bool} : ∀ {vs ws : List Json} {r r' : List Char},
    renderItems ascii first vs ++ r = renderItems ascii first ws ++ r' → vs = ws ∧ r = r'
  | [], [], r, r', h => ⟨rfl, (List.cons.inj h).2⟩
  | [], w :: ws, r, r', h => by
      cases first with
      | false => cases (List.cons.inj h).1
      | true =>
          rw [renderItems, renderItems, comma, if_pos rfl, List.nil_append, List.append_assoc] at h
          exact absurd h.symm (render_ne (by decide))
  | v :: vs, [], r, r', h => by
      cases first with
      | false => cases (List.cons.inj h).1
      | true =>
          rw [renderItems, renderItems, comma, if_pos rfl, List.nil_append, List.append_assoc] at h
          exact absurd h (render_ne (by decide))
  | v :: vs, w :: ws, r, r', h => by
      simp only [renderItems, List.append_assoc, List.append_cancel_left_eq] at h
      obtain ⟨hvw, h⟩ := render_unique (stops_renderItems ascii vs r) (stops_renderItems ascii ws r') h
      obtain ⟨hrest, hrr⟩ := renderItems_unique h
      exact ⟨by rw [hvw, hrest], hrr⟩

private theorem renderFields_unique {ascii first : Bool} :
    ∀ {fs gs : List (String × Json)} {r r' : List Char},
    renderFields ascii first fs ++ r = renderFields ascii first gs ++ r' → fs = gs ∧ r = r'
  | [], [], r, r', h => ⟨rfl, (List.cons.inj h).2⟩
  | [], (k, v) :: gs, r, r', h => by
      cases first <;> cases (List.cons.inj h).1
  | (k, v) :: fs, [], r, r', h => by
      cases first <;> cases (List.cons.inj h).1
  | (k, v) :: fs, (l, w) :: gs, r, r', h => by
      simp only [renderFields, List.append_assoc, List.append_cancel_left_eq, List.cons_append] at h
      obtain ⟨hkl, h⟩ := quote_unique h
      obtain ⟨hvw, h⟩ := render_unique (stops_renderFields ascii fs r)
        (stops_renderFields ascii gs r') (List.cons.inj h).2
      obtain ⟨hrest, hrr⟩ := renderFields_unique h
      exact ⟨by rw [hkl, hvw, hrest], hrr⟩

end

/-- **Rendering is injective.** -/
theorem render_injective {ascii : Bool} {v w : Json} (h : v.render ascii = w.render ascii) :
    v = w := by
  have hstops : Stops [] := fun _ h => by cases h
  exact (render_unique hstops hstops (by rw [h])).1

/-- **Values with the same canonical text are the same document**, and only these. -/
theorem dumps_injective {ascii : Bool} {v w : Json} : dumps ascii v = dumps ascii w ↔ v.Same w :=
  ⟨render_injective, congrArg (Json.render ascii)⟩

end BhDic.Library
