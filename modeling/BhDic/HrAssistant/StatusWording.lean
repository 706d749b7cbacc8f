import BhDic.HrAssistant.LocalIntent

/-!
# The wording of a state

Four classifiers look for parts of words in a text: `_requested_status` of the parser,
`normalize_hr_intent` for a total, `_employee_state` and `_account_state` for a page. Their words
differ, and "attiv" and "collegato" are parts of their own negations; the texts on which they agree
are those of `ConsistentWords`.
-/

namespace BhDic.Dic

open BhDic.Application (containsText)
open BhDic.Python

/-! ## The states of a page -/

/-- `_account_state`. -/
def accountState (u : UnicodeData) (value : Option (List Char)) : AccountState :=
  let normalized := u.casefold (stripChars (value.getD []))
  if containsText "non collegato".toList normalized then .notConnected
  else if containsText "collegato".toList normalized then .connected
  else if containsText "invitato".toList normalized then .invited
  else .unknown

/-- `_employee_state`. -/
def employeeState (u : UnicodeData) (value : Option (List Char)) : EmployeeState :=
  let normalized := u.casefold (stripChars (value.getD []))
  if ["disattiv", "inactive", "non attiv"].any (containsText ·.toList normalized) then .inactive
  else if ["attiv", "active"].any (containsText ·.toList normalized) then .active
  else .unknown

end BhDic.Dic

namespace BhDic.HrAssistant

open BhDic.Application (Intent containsText)
open BhDic.Dic BhDic.Library BhDic.Python

variable (u : UnicodeData) (today : Date)

/-! ## `normalize_hr_intent` -/

/-- The status of a total. -/
def aggregateStatus (request : List Char) : String :=
  let folded := u.casefold request
  if containsText "disattiv".toList folded || containsText "cessat".toList folded then "inactive"
  else if containsText "attiv".toList folded then "active"
  else "all"

/-- The parameters or dates that a request decides by itself. -/
def normalizeHrIntent (intent : Intent) (request : List Char) : Except Exn Intent := do
  if intent.functionId = "EMP-READ-001" ∧ isEmployeeAggregateRequest u request = true then
    return { intent with parameters := mapping [("status", .str (aggregateStatus u request))] }
  else if intent.functionId = "EMP-CONTRACT-001" then
    match ← supportedContractInterval u today request with
    | some (first, last) => return { intent with dateFrom := some first, dateTo := some last }
    | none => return intent
  else if intent.functionId = "EMP-PAY-002" then
    match ← localPayrollPresencePeriod u today request with
    | some (year, month) =>
        return { intent with
          parameters := mapping [("year", .int year), ("month", .int month)] }
    | none => return intent
  else if intent.functionId = "EMP-PAY-001" ∧
      ¬["year", "month", "latest_paid"].any (intent.parameters.contains ·) then
    let period ← localPayrollPresencePeriod u today request
    return { intent with
      parameters := mapping (period.elim latestPaidParameters payrollParameters) }
  else return intent

/-! ## What a text says -/

/-- What a classifier makes of a text. -/
inductive Wording
  | active | inactive | silent
  deriving DecidableEq

def Wording.ofStatus (status : String) : Wording :=
  if status = "active" then .active else if status = "inactive" then .inactive else .silent

def Wording.Contradicts (w w' : Wording) : Prop :=
  (w = .active ∧ w' = .inactive) ∨ (w = .inactive ∧ w' = .active)

def parserWording (text : List Char) : Wording := .ofStatus (requestedStatus u text)

/-- A request for something else than a total is not classified. -/
def normaliserWording (text : List Char) : Wording :=
  if isEmployeeAggregateRequest u text then .ofStatus (aggregateStatus u text) else .silent

def pageWording (text : List Char) : Wording :=
  match employeeState u (some text) with
  | .active => .active
  | .inactive => .inactive
  | .unknown => .silent

/-- The normaliser keeps what it makes of a total as the one parameter. -/
theorem normalizeHrIntent_status {intent : Intent} {request : List Char}
    (h : intent.functionId = "EMP-READ-001")
    (htotal : isEmployeeAggregateRequest u request = true) :
    normalizeHrIntent u today intent request = .ok { intent with
      parameters := mapping [("status", .str (aggregateStatus u request))] } := by
  rw [normalizeHrIntent, if_pos ⟨h, htotal⟩]
  rfl

/-! ## Words -/

/-- The words of a text, without the case of their letters. -/
def foldedWords (text : List Char) : List (List Char) :=
  ((u.casefold text).splitOnP fun c => !u.isWord c).filter (· ≠ [])

/-- The four endings of an adjective. -/
def inflections (stem : String) : List (List Char) :=
  ["o", "a", "i", "e"].map fun ending => (stem ++ ending).toList

/-- The words that are looked for: negative by themselves, negative after "non", and others. -/
structure Vocabulary where
  negative : List (List Char)
  plain : List (List Char)
  other : List (List Char)

def statusVocabulary : Vocabulary where
  negative := inflections "inattiv" ++ inflections "disattivat"
  plain := inflections "attiv"
  other := inflections "attivat" ++ inflections "cessat" ++ ["active".toList, "inactive".toList]

def connectionVocabulary : Vocabulary where
  negative := inflections "scollegat"
  plain := inflections "collegat"
  other := inflections "invitat"

/-- For each word of the vocabulary in a text, whether it is negative there. -/
def Vocabulary.polarities (v : Vocabulary) : Bool → List (List Char) → List Bool
  | _, [] => []
  | negated, word :: rest =>
      let tail := v.polarities (word = "non".toList) rest
      if word ∈ v.negative then true :: tail
      else if word ∈ v.plain then negated :: tail
      else if word ∈ v.other then false :: tail
      else tail

/-- The text has words of the vocabulary, and each is negative. -/
def Vocabulary.OnlyNegative (v : Vocabulary) (text : List Char) : Prop :=
  v.polarities false (foldedWords u text) ≠ [] ∧
    ∀ negative ∈ v.polarities false (foldedWords u text), negative = true

/-! ## Agreement -/

/-- The classifiers agree on a text, and take no negation for its contrary. -/
structure ConsistentWording (text : List Char) : Prop where
  parserPage : ¬(parserWording u text).Contradicts (pageWording u text)
  parserNormaliser : ¬(parserWording u text).Contradicts (normaliserWording u text)
  normaliserPage : ¬(normaliserWording u text).Contradicts (pageWording u text)
  status : statusVocabulary.OnlyNegative u text →
    parserWording u text ≠ .active ∧ normaliserWording u text ≠ .active ∧
      pageWording u text ≠ .active
  connection : connectionVocabulary.OnlyNegative u text →
    accountState u (some text) ≠ .connected

/-- The part of a word is found in the text, whatever its case. -/
def Says (text : List Char) (part : String) : Prop :=
  containsText part.toList (u.casefold text) = true

instance (text : List Char) (part : String) : Decidable (Says u text part) :=
  inferInstanceAs (Decidable (_ = true))

/-- What a text must say for the classifiers to agree on it. -/
structure ConsistentWords (text : List Char) : Prop where
  inactive : Says u text "inattiv" ∨ Says u text "cessat" →
    Says u text "attiv" ∨ Says u text "active" →
    Says u text "disattiv" ∨ Says u text "inactive" ∨ Says u text "non attiv"
  negated : Says u text "inactive" ∨ Says u text "non attiv" → Says u text "attiv" →
    Says u text "disattiv" ∨ Says u text "inattiv" ∨ Says u text "cessat"
  total : isEmployeeAggregateRequest u text = true →
    Says u text "inattiv" ∨ Says u text "inactive" ∨ Says u text "non attiv" →
    Says u text "attiv" → Says u text "disattiv" ∨ Says u text "cessat"
  status : statusVocabulary.OnlyNegative u text →
    (Says u text "disattiv" ∨ Says u text "inattiv" ∨ Says u text "cessat") ∧
      (Says u text "disattiv" ∨ Says u text "inactive" ∨ Says u text "non attiv") ∧
      (isEmployeeAggregateRequest u text = true →
        Says u text "disattiv" ∨ Says u text "cessat")
  connection : connectionVocabulary.OnlyNegative u text → Says u text "collegato" →
    Says u text "non collegato"

/-! ## Parts of a text -/

section Parts

theorem containsText_iff {part text : List Char} : containsText part text = true ↔ part <:+: text := by
  rw [containsText, List.any_eq_true, List.infix_iff_prefix_suffix]
  simp only [List.mem_tails, List.isPrefixOf_iff_prefix]
  exact exists_congr fun _ => and_comm

/-- White space before a text hides nothing that starts with something else. -/
theorem infix_append_left {part lead text : List Char}
    (hpart : part.head?.any (!isSpace ·) = true) (hlead : ∀ c ∈ lead, isSpace c = true) :
    part <:+: lead ++ text ↔ part <:+: text := by
  induction lead with
  | nil => rfl
  | cons c lead ih =>
      rw [List.cons_append, List.infix_cons_iff, ih fun d hd => hlead d (List.mem_cons_of_mem _ hd)]
      constructor
      · rintro (hstart | hlater)
        · cases part with
          | nil => cases hpart
          | cons d part =>
              obtain ⟨rfl, -⟩ := List.cons_prefix_cons.mp hstart
              simp [hlead d List.mem_cons_self] at hpart
        · exact hlater
      · exact .inr

theorem infix_append_right {part text trail : List Char}
    (hpart : part.getLast?.any (!isSpace ·) = true) (htrail : ∀ c ∈ trail, isSpace c = true) :
    part <:+: text ++ trail ↔ part <:+: text := by
  rw [← List.reverse_infix, List.reverse_append, infix_append_left, List.reverse_infix]
  · rwa [List.head?_reverse]
  · intro c hc
    exact htrail c (List.mem_reverse.mp hc)

/-- A text is what `strip` leaves of it, in white space. -/
theorem stripChars_append (text : List Char) :
    ∃ lead trail, text = lead ++ stripChars text ++ trail ∧ (∀ c ∈ lead, isSpace c = true) ∧
      ∀ c ∈ trail, isSpace c = true := by
  refine ⟨text.takeWhile isSpace, (text.dropWhile isSpace).rtakeWhile isSpace, ?_, ?_, ?_⟩
  · rw [stripChars, List.append_assoc, List.rdropWhile_append_rtakeWhile,
      List.takeWhile_append_dropWhile]
  · intro c hc
    exact List.mem_takeWhile_imp hc
  · intro c hc
    exact List.mem_rtakeWhile_imp hc

/-- Case folding, as `str.casefold` does it: one character at a time, and white space is left as it
is. -/
structure FoldsByCharacter : Prop where
  append : ∀ text text', u.casefold (text ++ text') = u.casefold text ++ u.casefold text'
  space : ∀ c, isSpace c = true → u.casefold [c] = [c]

variable {u}

theorem FoldsByCharacter.casefold_spaces (h : FoldsByCharacter u) {spaces : List Char}
    (hspaces : ∀ c ∈ spaces, isSpace c = true) : u.casefold spaces = spaces := by
  induction spaces with
  | nil =>
      have hnil := congrArg List.length (h.append [] [])
      simpa using hnil
  | cons c spaces ih =>
      have happend := h.append [c] spaces
      rw [h.space c (hspaces c List.mem_cons_self),
        ih fun d hd => hspaces d (List.mem_cons_of_mem _ hd)] at happend
      exact happend

/-- What a stripped text says, the text says. -/
theorem containsText_stripped (h : FoldsByCharacter u) (text : List Char) {part : List Char}
    (hhead : part.head?.any (!isSpace ·) = true) (hlast : part.getLast?.any (!isSpace ·) = true) :
    containsText part (u.casefold (stripChars text)) = containsText part (u.casefold text) := by
  obtain ⟨lead, trail, htext, hlead, htrail⟩ := stripChars_append text
  rw [Bool.eq_iff_iff, containsText_iff, containsText_iff]
  have hfold : u.casefold text = lead ++ u.casefold (stripChars text) ++ trail := by
    conv_lhs => rw [htext]
    rw [h.append, h.append, h.casefold_spaces hlead, h.casefold_spaces htrail]
  rw [hfold, List.append_assoc, infix_append_left hhead hlead, infix_append_right hlast htrail]

end Parts

/-! ## Words that are there -/

section Vocabularies

variable {u}

/-- The first piece of a text begins it, and every other piece lies in it. -/
theorem splitOnP_pieces (p : Char → Bool) (text : List Char) :
    ∃ first rest, text.splitOnP p = first :: rest ∧ first <+: text ∧ ∀ word ∈ rest, word <:+: text := by
  induction text with
  | nil => exact ⟨[], [], rfl, List.prefix_rfl, by simp⟩
  | cons c text ih =>
      obtain ⟨first, rest, hsplit, hfirst, hrest⟩ := ih
      rw [List.splitOnP_cons_eq_if_modifyHead, hsplit]
      split
      · refine ⟨[], first :: rest, rfl, List.nil_prefix, ?_⟩
        intro word hword
        rcases List.mem_cons.mp hword with rfl | hword
        · exact List.infix_cons hfirst.isInfix
        · exact List.infix_cons (hrest word hword)
      · refine ⟨c :: first, rest, rfl, ?_, ?_⟩
        · exact List.cons_prefix_cons.mpr ⟨rfl, hfirst⟩
        · intro word hword
          exact List.infix_cons (hrest word hword)

theorem infix_of_mem_foldedWords {text word : List Char} (h : word ∈ foldedWords u text) :
    word <:+: u.casefold text := by
  obtain ⟨first, rest, hsplit, hfirst, hrest⟩ :=
    splitOnP_pieces (fun c => !u.isWord c) (u.casefold text)
  have hmem := List.mem_of_mem_filter h
  rw [hsplit] at hmem
  rcases List.mem_cons.mp hmem with rfl | hmem
  · exact hfirst.isInfix
  · exact hrest word hmem

/-- What is negative in a text is a word of the vocabulary. -/
theorem Vocabulary.exists_word (v : Vocabulary) {negated : Bool} {words : List (List Char)}
    (h : true ∈ v.polarities negated words) : ∃ word ∈ words, word ∈ v.negative ++ v.plain := by
  induction words generalizing negated with
  | nil => cases h
  | cons word rest ih =>
      have hlater : true ∈ v.polarities (word = "non".toList) rest →
          ∃ word' ∈ word :: rest, word' ∈ v.negative ++ v.plain := by
        intro hmem
        obtain ⟨word', hword', hv⟩ := ih hmem
        exact ⟨word', List.mem_cons_of_mem _ hword', hv⟩
      simp only [Vocabulary.polarities] at h
      split at h
      · rename_i hnegative
        exact ⟨word, List.mem_cons_self, List.mem_append_left _ hnegative⟩
      · split at h
        · rename_i hplain
          exact ⟨word, List.mem_cons_self, List.mem_append_right _ hplain⟩
        · split at h
          · rcases List.mem_cons.mp h with hfalse | hmem
            · cases hfalse
            · exact hlater hmem
          · exact hlater h

theorem says_of_infix {text word : List Char} {part : String} (hword : word <:+: u.casefold text)
    (hpart : containsText part.toList word = true) : Says u text part :=
  containsText_iff.mpr ((containsText_iff.mp hpart).trans hword)

theorem statusVocabulary_words :
    ∀ word ∈ statusVocabulary.negative ++ statusVocabulary.plain,
      containsText "attiv".toList word = true := by
  decide

/-- A negation of "attivo" says "attiv". -/
theorem says_attiv {text : List Char} (h : statusVocabulary.OnlyNegative u text) :
    Says u text "attiv" := by
  obtain ⟨negative, hmem⟩ := List.exists_mem_of_ne_nil _ h.1
  obtain rfl := h.2 negative hmem
  obtain ⟨word, hword, hv⟩ := statusVocabulary.exists_word hmem
  exact says_of_infix (infix_of_mem_foldedWords hword) (statusVocabulary_words word hv)

end Vocabularies

/-! ## The classifiers, by what a text says -/

section Classifiers

variable {u} {text : List Char}

/-- A classifier of two tests, the negative one first. -/
theorem ofStatus_active {inactive active : Prop} [Decidable inactive] [Decidable active] :
    Wording.ofStatus (if inactive then "inactive" else if active then "active" else "all") =
      .active ↔ ¬inactive ∧ active := by
  by_cases hinactive : inactive
  · simp [Wording.ofStatus, hinactive]
  · by_cases hactive : active <;> simp [Wording.ofStatus, hinactive, hactive]

theorem ofStatus_inactive {inactive active : Prop} [Decidable inactive] [Decidable active] :
    Wording.ofStatus (if inactive then "inactive" else if active then "active" else "all") =
      .inactive ↔ inactive := by
  by_cases hinactive : inactive
  · simp [Wording.ofStatus, hinactive]
  · by_cases hactive : active <;> simp [Wording.ofStatus, hinactive, hactive]

theorem requestedStatus_eq : requestedStatus u text =
    if Says u text "disattiv" ∨ Says u text "inattiv" ∨ Says u text "cessat" then "inactive"
    else if Says u text "attiv" then "active" else "all" := by
  simp only [requestedStatus, Says, Bool.or_eq_true, or_assoc]
  rfl

theorem aggregateStatus_eq : aggregateStatus u text =
    if Says u text "disattiv" ∨ Says u text "cessat" then "inactive"
    else if Says u text "attiv" then "active" else "all" := by
  simp only [aggregateStatus, Says, Bool.or_eq_true]
  rfl

theorem parserWording_active : parserWording u text = .active ↔
    ¬(Says u text "disattiv" ∨ Says u text "inattiv" ∨ Says u text "cessat") ∧
      Says u text "attiv" := by
  rw [parserWording, requestedStatus_eq, ofStatus_active]

theorem parserWording_inactive : parserWording u text = .inactive ↔
    Says u text "disattiv" ∨ Says u text "inattiv" ∨ Says u text "cessat" := by
  rw [parserWording, requestedStatus_eq, ofStatus_inactive]

theorem normaliserWording_active : normaliserWording u text = .active ↔
    isEmployeeAggregateRequest u text = true ∧
      ¬(Says u text "disattiv" ∨ Says u text "cessat") ∧ Says u text "attiv" := by
  rw [normaliserWording, aggregateStatus_eq]
  split
  · rename_i htotal
    rw [ofStatus_active, and_iff_right htotal]
  · rename_i htotal
    simp [htotal]

theorem normaliserWording_inactive : normaliserWording u text = .inactive ↔
    isEmployeeAggregateRequest u text = true ∧
      (Says u text "disattiv" ∨ Says u text "cessat") := by
  rw [normaliserWording, aggregateStatus_eq]
  split
  · rename_i htotal
    rw [ofStatus_inactive, and_iff_right htotal]
  · rename_i htotal
    simp [htotal]

/-- `_employee_state` reads parts that neither begin nor end with white space. -/
theorem page_parts : ∀ part ∈ ["disattiv", "inactive", "non attiv", "attiv", "active",
    "non collegato", "collegato", "invitato"],
      part.toList.head?.any (!isSpace ·) = true ∧
        part.toList.getLast?.any (!isSpace ·) = true := by
  decide

theorem page_part (h : FoldsByCharacter u) (text : List Char) (part : String)
    (hpart : part ∈ ["disattiv", "inactive", "non attiv", "attiv", "active", "non collegato",
      "collegato", "invitato"]) :
    containsText part.toList (u.casefold (stripChars text)) =
      containsText part.toList (u.casefold text) :=
  containsText_stripped h text (page_parts part hpart).1 (page_parts part hpart).2

/-- `_employee_state`, of a text that is not stripped. -/
theorem employeeState_some (h : FoldsByCharacter u) : employeeState u (some text) =
    if Says u text "disattiv" ∨ Says u text "inactive" ∨ Says u text "non attiv" then .inactive
    else if Says u text "attiv" ∨ Says u text "active" then .active
    else .unknown := by
  simp only [employeeState, Option.getD_some, List.any_cons, List.any_nil, Bool.or_false,
    Bool.or_eq_true]
  rw [page_part h text "disattiv" (by decide), page_part h text "inactive" (by decide),
    page_part h text "non attiv" (by decide), page_part h text "attiv" (by decide),
    page_part h text "active" (by decide)]
  rfl

theorem pageWording_inactive (h : FoldsByCharacter u) : pageWording u text = .inactive ↔
    Says u text "disattiv" ∨ Says u text "inactive" ∨ Says u text "non attiv" := by
  rw [pageWording, employeeState_some h]
  by_cases hinactive : Says u text "disattiv" ∨ Says u text "inactive" ∨ Says u text "non attiv"
  · simp [hinactive]
  · rw [if_neg hinactive]
    by_cases hactive : Says u text "attiv" ∨ Says u text "active"
    · simp [hactive, hinactive]
    · simp [hactive, hinactive]

theorem pageWording_active (h : FoldsByCharacter u) : pageWording u text = .active ↔
    ¬(Says u text "disattiv" ∨ Says u text "inactive" ∨ Says u text "non attiv") ∧
      (Says u text "attiv" ∨ Says u text "active") := by
  rw [pageWording, employeeState_some h]
  by_cases hinactive : Says u text "disattiv" ∨ Says u text "inactive" ∨ Says u text "non attiv"
  · simp [hinactive]
  · rw [if_neg hinactive]
    by_cases hactive : Says u text "attiv" ∨ Says u text "active"
    · simp [hactive, hinactive]
    · simp [hactive]

theorem accountState_connected (h : FoldsByCharacter u) :
    accountState u (some text) = .connected ↔
      ¬Says u text "non collegato" ∧ Says u text "collegato" := by
  have haccount : accountState u (some text) =
      if Says u text "non collegato" then .notConnected
      else if Says u text "collegato" then .connected
      else if Says u text "invitato" then .invited
      else .unknown := by
    simp only [accountState, Option.getD_some]
    simp only [page_part h text "non collegato" (by decide),
      page_part h text "collegato" (by decide), page_part h text "invitato" (by decide)]
    rfl
  rw [haccount]
  by_cases hnot : Says u text "non collegato"
  · simp [hnot]
  · by_cases hconnected : Says u text "collegato"
    · simp [hnot, hconnected]
    · by_cases hinvited : Says u text "invitato" <;> simp [hnot, hconnected, hinvited]

/-- Where the parser and the page agree. -/
theorem parser_page (h : FoldsByCharacter u) :
    ¬(parserWording u text).Contradicts (pageWording u text) ↔
      (Says u text "inattiv" ∨ Says u text "cessat" → Says u text "attiv" ∨ Says u text "active" →
        Says u text "disattiv" ∨ Says u text "inactive" ∨ Says u text "non attiv") ∧
      (Says u text "inactive" ∨ Says u text "non attiv" → Says u text "attiv" →
        Says u text "disattiv" ∨ Says u text "inattiv" ∨ Says u text "cessat") := by
  rw [Wording.Contradicts, parserWording_active, parserWording_inactive, pageWording_active h,
    pageWording_inactive h]
  grind

/-- Where the parser and the normaliser agree. -/
theorem parser_normaliser :
    ¬(parserWording u text).Contradicts (normaliserWording u text) ↔
      (isEmployeeAggregateRequest u text = true → Says u text "inattiv" → Says u text "attiv" →
        Says u text "disattiv" ∨ Says u text "cessat") := by
  rw [Wording.Contradicts, parserWording_active, parserWording_inactive,
    normaliserWording_active, normaliserWording_inactive]
  grind

/-- Where the normaliser and the page agree. -/
theorem normaliser_page (h : FoldsByCharacter u) :
    ¬(normaliserWording u text).Contradicts (pageWording u text) ↔
      (isEmployeeAggregateRequest u text = true →
        (Says u text "cessat" → Says u text "attiv" ∨ Says u text "active" →
          Says u text "disattiv" ∨ Says u text "inactive" ∨ Says u text "non attiv") ∧
        (Says u text "inactive" ∨ Says u text "non attiv" → Says u text "attiv" →
          Says u text "disattiv" ∨ Says u text "cessat")) := by
  rw [Wording.Contradicts, normaliserWording_active, normaliserWording_inactive,
    pageWording_active h, pageWording_inactive h]
  grind

/-- Where no negation of "attivo" is taken for it. -/
theorem noneActive (h : FoldsByCharacter u) (hattiv : Says u text "attiv") :
    (parserWording u text ≠ .active ∧ normaliserWording u text ≠ .active ∧
        pageWording u text ≠ .active) ↔
      (Says u text "disattiv" ∨ Says u text "inattiv" ∨ Says u text "cessat") ∧
        (Says u text "disattiv" ∨ Says u text "inactive" ∨ Says u text "non attiv") ∧
        (isEmployeeAggregateRequest u text = true →
          Says u text "disattiv" ∨ Says u text "cessat") := by
  rw [ne_eq, ne_eq, ne_eq, parserWording_active, normaliserWording_active, pageWording_active h]
  grind

/-- The classifiers agree on a text exactly where it says enough. -/
theorem consistentWording_iff (h : FoldsByCharacter u) :
    ConsistentWording u text ↔ ConsistentWords u text := by
  constructor
  · intro hwording
    have hpage := (parser_page h).mp hwording.parserPage
    have hnormaliser := parser_normaliser.mp hwording.parserNormaliser
    have htotal := (normaliser_page h).mp hwording.normaliserPage
    constructor
    · exact hpage.1
    · exact hpage.2
    · intro hrequest hnegative hattiv
      rcases hnegative with hinattiv | hnegative
      · exact hnormaliser hrequest hinattiv hattiv
      · exact (htotal hrequest).2 hnegative hattiv
    · intro hnegative
      exact (noneActive h (says_attiv hnegative)).mp (hwording.status hnegative)
    · intro hnegative hcollegato
      by_contra hnot
      exact hwording.connection hnegative ((accountState_connected h).mpr ⟨hnot, hcollegato⟩)
  · intro hwords
    constructor
    · exact (parser_page h).mpr ⟨hwords.inactive, hwords.negated⟩
    · apply parser_normaliser.mpr
      intro hrequest hinattiv
      exact hwords.total hrequest (.inl hinattiv)
    · apply (normaliser_page h).mpr
      intro hrequest
      exact ⟨fun hcessat => hwords.inactive (.inr hcessat),
        fun hnegative => hwords.total hrequest (.inr hnegative)⟩
    · intro hnegative
      exact (noneActive h (says_attiv hnegative)).mpr (hwords.status hnegative)
    · intro hnegative hconnected
      obtain ⟨hnot, hcollegato⟩ := (accountState_connected h).mp hconnected
      exact hnot (hwords.connection hnegative hcollegato)

end Classifiers

/-! ## Two words -/

theorem foldsByCharacter_asciiTables : FoldsByCharacter asciiTables where
  append text text' := List.map_append
  space c hspace := by
    show [c.toLower] = [c]
    have hupper : ¬(c.val ≥ 'A'.val ∧ c.val ≤ 'Z'.val) := by
      rintro ⟨hlow, hhigh⟩
      have hlow : 65 ≤ c.toNat := hlow
      have hhigh : c.toNat ≤ 90 := hhigh
      simp only [isSpace, Bool.or_eq_true, Bool.and_eq_true, decide_eq_true_eq, beq_iff_eq]
        at hspace
      omega
    unfold Char.toLower
    rw [dif_neg hupper]

/-- An inactive employee is active on a page, and an account that is not connected is connected. -/
theorem inattivo_inconsistent :
    ¬ConsistentWording asciiTables "inattivo".toList ∧
      employeeState asciiTables (some "inattivo".toList) = .active ∧
      requestedStatus asciiTables "inattivo".toList = "inactive" ∧
      connectionVocabulary.OnlyNegative asciiTables "scollegato".toList ∧
      accountState asciiTables (some "scollegato".toList) = .connected := by
  refine ⟨?_, by decide +kernel, by decide +kernel, ?_, by decide +kernel⟩
  · intro hwording
    have hwords := (consistentWording_iff foldsByCharacter_asciiTables).mp hwording
    have hsays := hwords.inactive (.inl (by decide +kernel)) (.inl (by decide +kernel))
    revert hsays
    decide +kernel
  · rw [Vocabulary.OnlyNegative]
    decide +kernel

theorem disattivato_consistent : ConsistentWording asciiTables "disattivato".toList := by
  have hsays : Says asciiTables "disattivato".toList "disattiv" := by decide +kernel
  apply (consistentWording_iff foldsByCharacter_asciiTables).mpr
  constructor
  · exact fun _ _ => .inl hsays
  · exact fun _ _ => .inl hsays
  · exact fun _ _ _ => .inl hsays
  · exact fun _ => ⟨.inl hsays, .inl hsays, fun _ => .inl hsays⟩
  · intro _ hcollegato
    revert hcollegato
    decide +kernel

end BhDic.HrAssistant
