import Mathlib.Data.List.Find
import Mathlib.Data.List.TakeWhile
import Benchmarker.Js.Language
import Benchmarker.Scheduler.Pipeline
import Benchmarker.Maintenance.Sweep

/-!
# Tagged failure messages

`failEntry` stores a failure with its category before the message and, when it is retried, a note
behind it. No rule matches across either of them.

* `Rule.Apart`, `apart_rules`: what the rules have to do with the tags and the note.
* `classifyFailure_between`: a message between a tag and a note.
* **`classification_survives`**: a stored message is classified as its original was, by the scheduler
  and by the sweep.
-/

namespace Benchmarker

open Js Js.Re

theorem trimChars_eq_nil {l : List Char} : trimChars l = [] ↔ ∀ c ∈ l, isSpace c = true := by
  rw [trimChars, List.reverse_eq_nil_iff, List.dropWhile_eq_nil_iff]
  simp only [List.mem_reverse]
  constructor
  · intro h
    by_cases hnil : l.dropWhile isSpace = []
    · exact List.dropWhile_eq_nil_iff.1 hnil
    · have hspace := h _ (List.head_mem hnil)
      rw [List.head_dropWhile_not isSpace hnil] at hspace
      exact absurd hspace Bool.false_ne_true
  · intro h c hc
    exact h c ((List.dropWhile_sublist _).mem hc)

/-! ## Tags and notes -/

/-- The tag of a category. -/
def FailureCategory.tag (category : FailureCategory) : String := "[" ++ category.text ++ "] "

/-- The characters of the numbers in a note, and of what stands around them. -/
def noteChars : List Char := "0123456789/)".toList

/-- The rule matches across no tag and across no note. -/
structure Rule.Apart (rule : Rule) : Prop where
  plain : rule.pattern.plain = true
  tag : ∀ category : FailureCategory, rule.pattern.shut category.tag.toList = true
  note : rule.pattern.rev.shut " (auto-retry ".toList.reverse = true
  chars : ∀ c ∈ noteChars, rule.pattern.rev.blocked [c] = true

instance (p : FailureCategory → Prop) [DecidablePred p] : Decidable (∀ category, p category) :=
  decidable_of_iff (p .transientInfra ∧ p .resourceFit ∧ p .modelArch ∧ p .unknown)
    ⟨fun ⟨h₁, h₂, h₃, h₄⟩ category => by cases category <;> assumption,
      fun h => ⟨h _, h _, h _, h _⟩⟩

instance (rule : Rule) : Decidable rule.Apart :=
  decidable_of_iff (rule.pattern.plain = true ∧
      (∀ category : FailureCategory, rule.pattern.shut category.tag.toList = true) ∧
      rule.pattern.rev.shut " (auto-retry ".toList.reverse = true ∧
      noteChars.all (rule.pattern.rev.blocked [·]) = true)
    ⟨fun ⟨h₁, h₂, h₃, h₄⟩ => ⟨h₁, h₂, h₃, List.all_eq_true.1 h₄⟩,
      fun h => ⟨h.1, h.2, h.3, List.all_eq_true.2 h.4⟩⟩

theorem apart_rules : ∀ rule ∈ rules, rule.Apart := by decide +kernel

theorem digit_mem_noteChars {c : Char} (h : c.isDigit = true) : c ∈ noteChars := by
  have hall : ∀ n ∈ List.range' 48 10, Char.ofNat n ∈ noteChars := by decide
  have hbounds : 48 ≤ c.toNat ∧ c.toNat ≤ 57 := by
    simpa [Char.isDigit, UInt32.le_iff_toNat_le] using h
  have hc := hall c.toNat (List.mem_range'_1.2 (by omega))
  rwa [Char.ofNat_toNat] at hc

theorem toString_mem_noteChars (n : ℕ) {c : Char} (h : c ∈ (toString n).toList) : c ∈ noteChars := by
  rw [Nat.toString_eq_repr, Nat.toList_repr] at h
  exact digit_mem_noteChars (Nat.isDigit_of_mem_toDigits (by decide) (by decide) h)

/-- The note of a retry. -/
def retryNote (retryCount budget : ℕ) : String :=
  " (auto-retry " ++ toString retryCount ++ "/" ++ toString budget ++ ")"

theorem retryNote_eq (retryCount budget : ℕ) : retryNote retryCount budget =
    " (auto-retry " ++ toString retryCount ++ "/" ++ toString budget ++ ")" := rfl

theorem shut_retryNote {rule : Rule} (h : rule.Apart) (retryCount budget : ℕ) :
    rule.pattern.rev.Shut (retryNote retryCount budget).toList.reverse := by
  have hnote : (retryNote retryCount budget).toList.reverse =
      ((toString retryCount).toList ++ "/".toList ++ (toString budget).toList ++ ")".toList).reverse ++
        " (auto-retry ".toList.reverse := by
    rw [← List.reverse_append, retryNote_eq]
    simp only [String.toList_append, List.append_assoc]
  have hall : ("/".toList ++ ")".toList).all (noteChars.contains ·) = true := by decide
  have hsigns : ∀ c ∈ "/".toList ++ ")".toList, c ∈ noteChars := fun c hc =>
    List.contains_iff_mem.1 (List.all_eq_true.1 hall c hc)
  rw [hnote]
  refine shut_append (fun c hc => h.chars c ?_) (shut_of_eq_true h.note)
  rw [List.mem_reverse, List.mem_append, List.mem_append, List.mem_append] at hc
  rcases hc with ((hc | hc) | hc) | hc
  · exact toString_mem_noteChars retryCount hc
  · exact hsigns c (List.mem_append_left _ hc)
  · exact toString_mem_noteChars budget hc
  · exact hsigns c (List.mem_append_right _ hc)

theorem shut_nil {r : Re} : r.Shut [] := fun _ hne ht => absurd (List.suffix_nil.1 ht) hne

/-! ## Classification -/

/-- A message with something before it and behind it that no rule matches across. -/
theorem classifyFailure_between {before message after : String}
    (hbefore : ∀ rule ∈ rules, rule.pattern.Shut before.toList)
    (hafter : ∀ rule ∈ rules, rule.pattern.rev.Shut after.toList.reverse)
    (hknown : (classifyFailure message).category ≠ .unknown) :
    classifyFailure (before ++ message ++ after) = classifyFailure message := by
  have hsame : (rules.find? fun rule => rule.pattern.test (before ++ message ++ after)) =
      rules.find? fun rule => rule.pattern.test message :=
    List.find?_congr fun rule hrule =>
      test_between (apart_rules rule hrule).plain (hbefore rule hrule) (hafter rule hrule)
  have hfull : trimChars message.toList ≠ [] := by
    intro hempty
    rw [classifyFailure, if_pos hempty] at hknown
    exact hknown rfl
  have hfull' : trimChars (before ++ message ++ after).toList ≠ [] := by
    rw [ne_eq, trimChars_eq_nil] at hfull ⊢
    intro h
    refine hfull fun c hc => h c ?_
    rw [String.toList_append, String.toList_append]
    exact List.mem_append_left _ (List.mem_append_right _ hc)
  rw [classifyFailure, classifyFailure, if_neg hfull, if_neg hfull', hsame]

theorem taggedMessage_of_known {message : String}
    (h : (classifyFailure message).category ≠ .unknown) :
    taggedMessage message = (classifyFailure message).category.tag ++ message := by
  unfold taggedMessage FailureCategory.tag
  split
  · exact absurd ‹_› h
  · rfl

theorem classifyFailure_tagged (message : String) :
    classifyFailure (taggedMessage message) = classifyFailure message := by
  by_cases h : (classifyFailure message).category = .unknown
  · rw [taggedMessage, h]
  · have htag : classifyFailure ((classifyFailure message).category.tag ++ message ++ "") =
        classifyFailure message :=
      classifyFailure_between
        (fun rule hrule => shut_of_eq_true ((apart_rules rule hrule).tag _)) (fun _ _ => shut_nil) h
    rw [taggedMessage_of_known h]
    rwa [String.append_empty] at htag

theorem classifyFailure_noted {message : String} (h : (classifyFailure message).category ≠ .unknown)
    (retryCount budget : ℕ) :
    classifyFailure (taggedMessage message ++ retryNote retryCount budget) =
      classifyFailure message := by
  rw [taggedMessage_of_known h]
  exact classifyFailure_between
    (fun rule hrule => shut_of_eq_true ((apart_rules rule hrule).tag _))
    (fun rule hrule => shut_retryNote (apart_rules rule hrule) retryCount budget) h

/-- **A stored failure is classified as its message was**, whatever was retried of it: by
`classifyFailure`, and so by the sweep that reads it. -/
theorem classification_survives (deps : SchedulerDeps) (entry : QueueEntry) (message : String) :
    classifyFailure (statusMessage deps entry message) = classifyFailure message ∧
    ∀ (e : QueueEntry) (cooled : List String) (failed : List QueueEntry),
      { e with errorMessage := some (statusMessage deps entry message) } ∈ candidates cooled failed ↔
        { e with errorMessage := some (statusMessage deps entry message) } ∈ failed ∧
          (classifyFailure message).retriable = true ∧ e.modelId ∉ cooled := by
  have hsame : classifyFailure (statusMessage deps entry message) = classifyFailure message := by
    unfold statusMessage
    by_cases hretry : willRetry deps entry message = true
    · have hknown : (classifyFailure message).category ≠ .unknown := by
        intro hunknown
        rw [willRetry, not_retriable_of_unknown hunknown] at hretry
        simp at hretry
      have hnoted := classifyFailure_noted hknown (entry.retryCount + 1)
        (retryBudget deps (classifyFailure message).category)
      rw [if_pos hretry]
      simpa only [retryNote_eq, String.append_assoc] using hnoted
    · rw [if_neg hretry]
      exact classifyFailure_tagged message
  refine ⟨hsame, fun e cooled failed => ?_⟩
  rw [candidates, List.mem_filter, List.mem_filter, and_assoc]
  simp only [Option.getD_some, hsame, Bool.not_eq_true', List.contains_eq_mem, decide_eq_false_iff_not]

end Benchmarker
