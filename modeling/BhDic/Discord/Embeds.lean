import BhDic.Discord.Transport
import BhDic.OpenAI.Redaction

/-!
# Rendering of a result

`result_embed` redacts every text of a result and fits it into the limits of Discord: each text into
its own, and, where the whole is still too long, all of them into a budget that is shared out fairly.
What is shortened is told by a notice in the footer. A language profile may add a decoration.
-/

namespace BhDic.Discord

open BhDic.OpenAI (redactText)
open BhDic.Python

def maxTitle : Nat := 256
def maxDescription : Nat := 4096
def maxFieldName : Nat := 256
def maxFieldValue : Nat := 1024
def maxAuthorName : Nat := 256
def maxFooter : Nat := 2048
def maxTotal : Nat := 6000
def maxFields : Nat := 25
def maxDecoration : Nat := 120

def reductionNotice : List Char := "Contenuto ridotto per i limiti Discord.".toList

/-! ## Embeds -/

inductive Color
  | green | red
  deriving DecidableEq, Repr

structure EmbedField where
  name : List Char
  value : List Char
  inline : Bool
  deriving DecidableEq

/-- `discord.Embed`. -/
structure Embed where
  title : List Char
  description : List Char
  fields : List EmbedField := []
  footer : Option (List Char) := none
  author : Option (List Char) := none
  color : Color
  deriving DecidableEq

/-- `len(embed)`. -/
def Embed.length (embed : Embed) : Nat :=
  embed.title.length + embed.description.length +
    (embed.fields.map fun field => field.name.length + field.value.length).sum +
    (embed.footer.getD []).length + (embed.author.getD []).length

/-! ## Texts -/

/-- What `text.replace(old, new)` makes of the rest of a text, of which the last replacement has
taken the first `skip` characters. -/
def replaceFrom (old new : List Char) : (skip : Nat) → List Char → List Char
  | _, [] => []
  | skip + 1, _ :: rest => replaceFrom old new skip rest
  | 0, c :: rest =>
      if old.isPrefixOf (c :: rest) then new ++ replaceFrom old new (old.length - 1) rest
      else c :: replaceFrom old new 0 rest

/-- `value or "—"`. -/
def orDash (value : List Char) : List Char := if value = [] then ['—'] else value

/-- `_truncate`. -/
def truncate (value : List Char) (maximum : Nat) : List Char :=
  if value.length ≤ maximum then orDash value
  else if maximum ≤ 1 then ['…']
  else value.take (maximum - 1) ++ ['…']

section

variable (u : UnicodeData)

/-- `_redacted`: a mention of everybody is broken by an invisible space. -/
@[irreducible] def redacted (value : List Char) : List Char :=
  replaceFrom "@here".toList "@\u200bhere".toList 0
    (replaceFrom "@everyone".toList "@\u200beveryone".toList 0 (redactText u value))

/-- `_bounded`. -/
def bounded (value : List Char) (maximum : Nat) : List Char × Bool :=
  (truncate (redacted u value) maximum, decide (maximum < (redacted u value).length))

/-- `_safe`. -/
def safe (value : List Char) (maximum : Nat) : List Char := (bounded u value maximum).1

end

/-! ## Sharing out a budget -/

/-- One round of `_fair_allocations`: each active text in turn is granted its share, until the budget
is spent. -/
def grantRound (desired : List Nat) (share : Nat) : (active allocations : List Nat) →
    (budget : Nat) → List Nat × Nat
  | [], allocations, budget => (allocations, budget)
  | index :: active, allocations, budget =>
      let granted := min (min (desired.getD index 0 - allocations.getD index 0) share) budget
      let allocations := allocations.modify index (· + granted)
      let budget := budget - granted
      if budget = 0 then (allocations, budget)
      else grantRound desired share active allocations budget

/-- The loop of `_fair_allocations`. Each round spends something, so that it ends within `budget`
rounds. -/
def fairRounds (desired : List Nat) : (fuel : Nat) → (active allocations : List Nat) →
    (budget : Nat) → List Nat
  | 0, _, allocations, _ => allocations
  | fuel + 1, active, allocations, budget =>
      if 0 < budget ∧ active ≠ [] then
        let share := max 1 (budget / active.length)
        let (allocations, budget) := grantRound desired share active allocations budget
        let active := active.filter fun index => allocations.getD index 0 < desired.getD index 0
        fairRounds desired fuel active allocations budget
      else allocations

/-- `_fair_allocations`. -/
def fairAllocations (desired : List Nat) (budget : Nat) : List Nat :=
  let active := (List.range desired.length).filter fun index => 0 < desired.getD index 0
  fairRounds desired budget active (List.replicate desired.length 0) budget

/-- `_add_allocations`: the allocations and what is left of the budget. A text that has more than it
desires takes no part, be its deficit negative as in the source or zero as here. -/
def addAllocations (allocations desired : List Nat) (budget : Nat) : List Nat × Nat :=
  let deficits := List.zipWith (fun current maximum => maximum - current) allocations desired
  let additions := fairAllocations deficits budget
  (List.zipWith (· + ·) allocations additions, budget - additions.sum)

/-- The lengths that `_compact_embed` gives to the description and to every name and value, of
which `available` is what title and footer leave. -/
def compactLengths (success : Bool) (available descriptionLength : Nat) (components : List Nat) :
    Nat × List Nat :=
  let minimumFieldBudget := components.length
  let shown :=
    if success then min (min descriptionLength 1024) (available - minimumFieldBudget)
    else min descriptionLength (available - minimumFieldBudget)
  let available := available - shown - components.length
  let initialTargets := components.mapIdx fun index length =>
    min length (if index % 2 = 0 then 128 else 64)
  let (allocations, available) :=
    addAllocations (List.replicate components.length 1) initialTargets available
  if success = true ∧ 0 < available then
    let (combined, _) :=
      addAllocations (shown :: allocations) (descriptionLength :: components) available
    (combined.headD 0, combined.tail)
  else if 0 < available then
    (shown, (addAllocations allocations components available).1)
  else (shown, allocations)

/-! ## Putting an embed together -/

/-- `_build_embed`. -/
def buildEmbed (title description : List Char) (fields : List EmbedField)
    (footer : Option (List Char)) (color : Color) : Embed :=
  { title, description, fields, footer, color }

/-- The fields of `_compact_embed`, by the lengths of their names and values in turn. -/
def compactFields : List EmbedField → List Nat → List EmbedField
  | field :: fields, nameLength :: valueLength :: lengths =>
      ⟨truncate field.name nameLength, truncate field.value valueLength, field.inline⟩ ::
        compactFields fields lengths
  | _, _ => []

/-- The lengths of the names and values, in turn. -/
def componentLengths (fields : List EmbedField) : List Nat :=
  fields.flatMap fun field => [field.name.length, field.value.length]

/-- `_compact_embed`. -/
def compactEmbed (title description : List Char) (fields : List EmbedField) (footer : List Char)
    (color : Color) (success : Bool) : Embed :=
  let available := maxTotal - title.length - footer.length
  if fields = [] then buildEmbed title (truncate description available) [] (some footer) color
  else
    let (descriptionLength, allocations) :=
      compactLengths success available description.length (componentLengths fields)
    let compact := buildEmbed title (truncate description descriptionLength)
      (compactFields fields allocations) (some footer) color
    if maxTotal < compact.length then
      { compact with
          description := truncate (orDash compact.description)
            (descriptionLength - (compact.length - maxTotal)) }
    else compact

def bullet : List Char := " • ".toList

def correlationLabel : List Char := "Correlation ID: ".toList

/-- `" • ".join(parts) or None`. -/
def joinFooter (parts : List (List Char)) : Option (List Char) :=
  if parts = [] then none else some (bullet.intercalate parts)

section

variable (u : UnicodeData)

/-- `_footer`. -/
def footer (correlationId : Option String) (reduced : Bool) : Option (List Char) × Bool :=
  let notice := if reduced then [reductionNotice] else []
  match correlationId.filter (· ≠ "") with
  | none => (joinFooter notice, false)
  | some id =>
      let (safeCorrelation, correlationReduced) := bounded u id.toList 128
      (joinFooter (notice ++ [correlationLabel ++ safeCorrelation]), correlationReduced)

/-! ## Decoration -/

inductive EmojiMode
  | off | status
  deriving DecidableEq, Repr

/-- The part of `BotLanguageProfile` that an embed shows. -/
structure BotLanguageProfile where
  emojiMode : EmojiMode := .off
  displayName : Option String := none
  opening : Option String := none
  closing : Option String := none
  displayName_le : ∀ name ∈ displayName, name.length ≤ 48 := by simp
  opening_le : ∀ text ∈ opening, text.length ≤ maxDecoration := by simp
  closing_le : ∀ text ∈ closing, text.length ≤ maxDecoration := by simp

variable (result : InteractionResult) (profile : BotLanguageProfile)

/-- The opening and the closing go to successful results only. -/
def openingOf : Option (List Char) := if result.success then profile.opening.map (·.toList) else none

def closingOf : Option (List Char) := if result.success then profile.closing.map (·.toList) else none

/-- The author of a decorated embed, before redaction. -/
def authorOf : List Char :=
  let status :=
    if profile.emojiMode = .status then (if result.success then ['✅'] else ['⚠']) else []
  [' '].intercalate ([status, (profile.displayName.getD "").toList].filter (· ≠ []))

/-- The parts of a decorated footer. -/
def decoratedParts : List (List Char) :=
  ((closingOf result profile).map (safe u · maxDecoration)).toList ++
    ((result.correlationId.filter (· ≠ "")).map fun id =>
      correlationLabel ++ safe u id.toList 128).toList

/-- The description of a decorated embed. -/
def decoratedDescription (description : List Char) : List Char :=
  match openingOf result profile with
  | none => description
  | some opening =>
      let candidate := safe u opening maxDecoration ++ "\n\n".toList ++ description
      if candidate.length ≤ maxDescription then candidate else description

/-- `_decorated_copy`. -/
def decoratedCopy (embed : Embed) : Embed :=
  { embed with
      description := decoratedDescription u result profile embed.description
      author :=
        if authorOf result profile = [] then embed.author
        else some (safe u (authorOf result profile) maxAuthorName)
      footer :=
        match joinFooter (decoratedParts u result profile) with
        | none => embed.footer
        | some text => some (safe u text maxFooter) }

/-! ## `result_embed` -/

/-- A field within the limits of its own, and whether it was cut. -/
def boundedField (field : ResultField) : EmbedField × Bool :=
  let (name, nameReduced) := bounded u field.name.toList maxFieldName
  let (value, valueReduced) := bounded u field.value.toList maxFieldValue
  (⟨name, value, field.inline⟩, nameReduced || valueReduced)

/-- `result_embed` up to the decoration: the embed, and whether anything is missing. -/
def baseEmbed : Embed × Bool :=
  let color := if result.success then Color.green else .red
  let (title, titleReduced) := bounded u result.title.toList maxTitle
  let (description, descriptionReduced) := bounded u result.description.toList maxDescription
  let shown := (result.fields.take maxFields).map (boundedField u)
  let fields := shown.map (·.1)
  let fieldsReduced := decide (maxFields < result.fields.length) || shown.any (·.2)
  let reduced := titleReduced || descriptionReduced || fieldsReduced
  let (text, correlationReduced) := footer u result.correlationId reduced
  let text := if correlationReduced then (footer u result.correlationId true).1 else text
  let reduced := reduced || correlationReduced
  let embed := buildEmbed title description fields text color
  if maxTotal < embed.length then
    let text := (footer u result.correlationId true).1.getD reductionNotice
    (compactEmbed title description fields text color result.success, true)
  else (embed, reduced)

/-- `result_embed`. -/
def resultEmbed (result : InteractionResult) (profile : Option BotLanguageProfile) : Embed :=
  let (embed, reduced) := baseEmbed u result
  match profile with
  | none => embed
  | some profile =>
      if reduced = false then
        let decorated := decoratedCopy u result profile embed
        if decorated.length ≤ maxTotal then decorated else embed
      else embed

end

end BhDic.Discord
