import Mathlib.Data.List.Find
import TaskConsole.Failure
import TaskConsole.Proofs.Text.Digits

/-!
# Signatures of failures

Some texts tell the category of a failure wherever they stand in it (`Category.signatures`), and two
more if they stand at its front (`Category.ofText_eq`).  An answer with a status is put into words
with the status in front of the message of the service.  No signature reaches over into these words
(`Category.occurs_statusText_eq`), so what stands anywhere in the message counts as it does in a
failure that is nothing but the message; what stands at its front does not
(`Failure.category_status_eq_iff`).
-/

namespace TaskConsole

namespace Category

/-- What tells a category wherever it stands, in the order in which it counts. -/
def signatures : List (Category × List String) :=
  [(transientUnavailable, ["connection refused", "service unavailable", "warming up"]),
   (addressConflict, ["address already in use"]),
   (notFound, ["no such file or directory", "not found"]),
   (permissionDenied, ["permission denied"]),
   (operationNotPermitted, ["operation not permitted"]),
   (cancelled, ["context canceled"])]

/-- The category of a text by the signatures that stand anywhere in it. -/
def ofSignatures (text : String) : Category :=
  ((signatures.find? fun s => s.2.any fun part => occurs part (lowered text)).map Prod.fst).getD
    generic

/-- The category of a text: a signature at its front counts as well, that of a service which is
not ready before all others, and that of a request which was given up behind them. -/
theorem ofText_eq (text : String) :
  ofText text =
    if begins "unavailable" (lowered text) then transientUnavailable
    else if ofSignatures text = generic ∧ begins "cancelled" (lowered text) then cancelled
    else ofSignatures text
  := by
  simp only [ofText, ofSignatures, signatures, List.find?_cons, List.any_cons, List.any_nil,
    Bool.or_false, List.find?_nil, ← Bool.or_assoc]
  generalize lowered text = low
  cases begins "unavailable" low with
  | true => simp
  | false =>
    -- both sides go through the same tests, each of which decides both of them
    simp only [Bool.or_false, Bool.false_eq_true, if_false]
    repeat' split
    all_goals simp_all

/-! ### Occurrences -/

theorem occursIn_iff (part text : List Char) :
  occursIn part text = true ↔ part <:+: text
  := by
  induction text with
  | nil => rw [occursIn, List.infix_nil, List.isEmpty_iff]
  | cons c text ih =>
    rw [occursIn, Bool.or_eq_true, List.isPrefixOf_iff_prefix, ih, List.infix_cons_iff]

/-- What does not hold a mark, and holds more than what stands in front of the mark, can only stand
behind it. -/
theorem infix_behind_iff {part front text : List Char} {mark : Char} (hmark : mark ∉ part)
    (hmore : ∃ c ∈ part, c ∉ front) :
  part <:+: front ++ mark :: text ↔ part <:+: text
  := by
  obtain ⟨c, hpart, hfront⟩ := hmore
  have hbehind : ∀ {part' : List Char}, part' <+: mark :: text → mark ∉ part' → part' = [] := by
    intro part' hprefix hmark'
    rcases List.prefix_cons_iff.mp hprefix with hnil | ⟨rest, hrest, -⟩
    · exact hnil
    · rw [hrest] at hmark'
      exact absurd List.mem_cons_self hmark'
  constructor
  · intro h
    rcases List.infix_append_iff.mp h with h | h | ⟨front', back', hparts, hsuffix, hprefix⟩
    · exact absurd (h.mem hpart) hfront
    · rcases List.infix_cons_iff.mp h with h | h
      · rw [hbehind h hmark] at hpart
        cases hpart
      · exact h
    · rw [hparts] at hpart hmark
      have hnone : back' = [] := hbehind hprefix fun hmem => hmark (List.mem_append_right _ hmem)
      rw [hnone, List.append_nil] at hpart
      exact absurd (hsuffix.mem hpart) hfront
  · intro h
    apply (h.trans (List.suffix_cons mark text).isInfix).trans
    apply (List.suffix_append front _).isInfix

/-- The words in front of the message of an answer with a status. -/
def statusWords (status : Nat) : List Char :=
  "server responded with ".toList ++ (toString status).toList

theorem toList_lowered (text : String) :
  (lowered text).toList = text.toList.map Char.toLower
  := String.toList_ofList

/-- An answer with a status begins with words, and has its message behind a colon and a space. -/
theorem toList_lowered_statusText (status : Nat) (code : Option String) (message : String) :
  (lowered (Failure.status status code message).text).toList
    = statusWords status ++ ':' :: ' ' :: (lowered message).toList
  := by
  have hchars : (Failure.status status code message).text.toList
      = statusWords status ++ ':' :: ' ' :: message.toList := by
    have htext : (Failure.status status code message).text
        = "server responded with " ++ toString status ++ ": " ++ message := rfl
    have hmark : ": ".toList = [':', ' '] := by decide
    rw [htext, String.toList_append, String.toList_append, String.toList_append, hmark]
    exact List.append_assoc (statusWords status) [':', ' '] message.toList
  have hfront : "server responded with ".toList.map Char.toLower
      = "server responded with ".toList := by
    decide
  have hwords : (statusWords status).map Char.toLower = statusWords status :=
    List.map_append.trans (congrArg₂ _ hfront (Text.toLower_digits status))
  calc
    (lowered (Failure.status status code message).text).toList
      = (statusWords status ++ ':' :: ' ' :: message.toList).map Char.toLower :=
        (toList_lowered _).trans (congrArg _ hchars)
    _ = (statusWords status).map Char.toLower ++ ':' :: ' ' :: message.toList.map Char.toLower :=
        List.map_append
    _ = statusWords status ++ ':' :: ' ' :: (lowered message).toList := by
        rw [hwords, toList_lowered]

/-- Whether a signature cannot reach over into the words in front of a message: it has no colon
and no space at its front, and a character that these words do not have. -/
def keepsBehind (part : String) : Bool :=
  ':' ∉ part.toList && part.toList.head? != some ' '
    && part.toList.any fun c => c ∉ "server responded with ".toList && !c.isDigit

/-- Such a signature stands in an answer with a status exactly if it stands in its message. -/
theorem occurs_statusText_eq {part : String} (h : keepsBehind part = true) (status : Nat)
    (code : Option String) (message : String) :
  occurs part (lowered (Failure.status status code message).text)
    = occurs part (lowered message)
  := by
  simp only [keepsBehind, Bool.and_eq_true, decide_eq_true_iff, bne_iff_ne, List.any_eq_true,
    Bool.not_eq_true'] at h
  obtain ⟨⟨hcolon, hspace⟩, c, hc, hwords, hdigit⟩ := h
  have hmore : c ∉ statusWords status := by
    intro hmem
    rcases List.mem_append.mp hmem with hmem | hmem
    · exact hwords hmem
    · rw [Text.isDigit_of_mem_digits hmem] at hdigit
      cases hdigit
  rw [Bool.eq_iff_iff, occurs, occurs, occursIn_iff, occursIn_iff, toList_lowered_statusText,
    infix_behind_iff hcolon ⟨c, hc, hmore⟩, List.infix_cons_iff]
  apply or_iff_right
  intro hprefix
  rcases List.prefix_cons_iff.mp hprefix with hnil | ⟨rest, hrest, -⟩
  · rw [hnil] at hc
    cases hc
  · rw [hrest] at hspace
    exact hspace rfl

/-- Nothing stands at the front of an answer with a status but the words in front of its
message. -/
theorem not_begins_statusText {part : String} (h : part.toList.head?.any (· != 's') = true)
    (status : Nat) (code : Option String) (message : String) :
  begins part (lowered (Failure.status status code message).text) = false
  := by
  have hwords : statusWords status ++ ':' :: ' ' :: (lowered message).toList
      = 's' :: ("erver responded with ".toList ++ (toString status).toList
        ++ ':' :: ' ' :: (lowered message).toList) := rfl
  rw [begins, toList_lowered_statusText, hwords]
  cases hpart : part.toList with
  | nil =>
    rw [hpart] at h
    cases h
  | cons c rest =>
    rw [hpart] at h
    rw [List.isPrefixOf_cons_cons, Bool.and_eq_false_iff]
    left
    simpa using h

/-- The signatures that stand in an answer with a status are those that stand in its message. -/
theorem ofSignatures_statusText (status : Nat) (code : Option String) (message : String) :
  ofSignatures (Failure.status status code message).text = ofSignatures message
  := by
  have hall : signatures.all (fun s => s.2.all keepsBehind) = true := by decide
  rw [ofSignatures, ofSignatures, List.find?_congr]
  intro s hs
  rw [Bool.eq_iff_iff, List.any_eq_true, List.any_eq_true]
  apply exists_congr
  intro part
  apply and_congr_right
  intro hpart
  rw [occurs_statusText_eq (List.all_eq_true.mp (List.all_eq_true.mp hall s hs) part hpart)]

/-- An answer with a status has the category of the signatures that stand in its message. -/
theorem ofText_statusText (status : Nat) (code : Option String) (message : String) :
  ofText (Failure.status status code message).text = ofSignatures message
  := by
  rw [ofText_eq, not_begins_statusText (by decide), not_begins_statusText (by decide),
    ofSignatures_statusText, if_neg Bool.false_ne_true, if_neg fun h => Bool.false_ne_true h.2]

theorem ofStatus?_eq_none {status : Nat} (h : status ∉ [403, 404, 502, 503, 504]) :
  ofStatus? status = none
  := by
  simp only [List.mem_cons, List.not_mem_nil, or_false, not_or] at h
  rw [ofStatus?, if_neg (by omega), if_neg h.2.1, if_neg h.1]

end Category

namespace Failure

open Category

/-- A failure without a category of its own, neither by its code nor by its status, has that of its
text. -/
theorem category_eq_ofText {f : Failure} (hopen : f ≠ .cancelled)
    (hcode : f.code?.bind ofCode? = none) (hstatus : f.status?.bind ofStatus? = none) :
  f.category = ofText f.text
  := by
  have hneither : ((none : Option Category) <|> none) = none := rfl
  rw [category, if_neg hopen, hcode, hstatus, hneither, Option.getD_none]

/-- The category of a failure that is nothing but its message. -/
theorem category_transport (message : String) :
  (transport message).category = ofText message
  := by
  have htext : (transport message).text = message := rfl
  rw [category_eq_ofText (f := transport message) nofun rfl rfl, htext]

/-- Without a category of its own, neither by its code nor by its status, an answer has that of the
signatures which stand anywhere in its message.  It has the same category as a failure that is
nothing but the message, exactly if what counts at the front of the message makes no difference:
"unavailable" stands there only if a signature for it stands in the message as well, and "cancelled"
only with some other signature. -/
theorem category_status_eq_iff {status : Nat} {code : Option String}
    (hstatus : status ∉ [403, 404, 502, 503, 504]) (hcode : code.bind ofCode? = none)
    (message : String) :
  (Failure.status status code message).category = ofSignatures message
    ∧ ((Failure.status status code message).category = (transport message).category
      ↔ (begins "unavailable" (lowered message) = true →
          ofSignatures message = .transientUnavailable)
        ∧ (begins "cancelled" (lowered message) = true → ofSignatures message ≠ .generic))
  := by
  have hown : (Failure.status status code message).category = ofSignatures message := by
    rw [category_eq_ofText (f := .status status code message) nofun hcode
      (ofStatus?_eq_none hstatus), ofText_statusText]
  use hown
  rw [hown, category_transport, ofText_eq]
  cases begins "unavailable" (lowered message) with
  | true =>
    rw [if_pos rfl]
    constructor
    · intro hsame
      use fun _ => hsame
      intro _ hgeneric
      cases hsame.symm.trans hgeneric
    · rintro ⟨hready, -⟩
      exact hready rfl
  | false =>
    rw [if_neg Bool.false_ne_true]
    constructor
    · intro hsame
      use nofun
      intro hfront hgeneric
      rw [if_pos ⟨hgeneric, hfront⟩, hgeneric] at hsame
      cases hsame
    · rintro ⟨-, hother⟩
      rw [if_neg fun h => hother h.2 h.1]

/-- A message with "cancelled" at its front and the signature of a service that is not ready: with a
status of its own or without one, it has the same category. -/
theorem category_status_eq_of_refused_connection :
  let message := "Cancelled: Connection refused"
  begins "cancelled" (lowered message) = true
    ∧ (Failure.status 500 (some "weird") message).category = .transientUnavailable
    ∧ (Failure.status 500 (some "weird") message).category = (transport message).category
  := by
  intro message
  have hsignature : ofSignatures message = .transientUnavailable := by decide
  have hstatus : 500 ∉ [403, 404, 502, 503, 504] := by decide
  have hcode : (some "weird").bind ofCode? = none := by decide
  obtain ⟨hown, hsame⟩ := category_status_eq_iff hstatus hcode message
  have hfront : begins "cancelled" (lowered message) = true := by decide
  use hfront
  constructor
  · rw [hown, hsignature]
  · rw [hsame, hsignature]
    exact ⟨fun _ => rfl, fun _ => nofun⟩

/-- What counts at the front of a message does not count behind the words for a status. -/
theorem category_status_ne_of_front :
  (Failure.status 500 none "unavailable").category = .generic
    ∧ (transport "unavailable").category = .transientUnavailable
    ∧ (Failure.status 500 none "cancelled").category = .generic
    ∧ (transport "cancelled").category = .cancelled
  := by decide

end Failure

end TaskConsole
