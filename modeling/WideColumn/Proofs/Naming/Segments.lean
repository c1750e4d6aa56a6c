import Mathlib.Data.List.Chain
import Mathlib.Tactic.MkIffOfInductiveProp
import WideColumn.Proofs.Naming.SnakeCase
import WideColumn.Proofs.Text.Ascii

/-!
Field names and back. A field name becomes a column name without loss, but column names are cut
between letters and digits as well, and so a letter that follows a digit comes back as a capital.
-/

namespace WideColumn

open Text

def isFieldName (name : String) : Bool :=
  match name.toList with
  | [] => false
  | c :: rest => c.isLower && rest.all Char.isAlphanum

namespace CamelCase

variable {q r : Char} {cs : List Char} {ws : List (List Cluster)}

def isColumnChar (c : Char) : Bool :=
  c.isLower || c.isDigit

theorem isColumnChar_of_isLower (h : q.isLower = true) : isColumnChar q = true := by
  rw [isColumnChar, h, Bool.true_or]

theorem isAlphanum_of_isColumnChar (h : isColumnChar q = true) : q.isAlphanum = true := by
  rw [isColumnChar, Bool.or_eq_true] at h
  exact isAlphanum_iff.mpr (h.imp_left .inr)

@[mk_iff]
structure IsPlain (c : Char) : Prop where
  delimiter : isDelimiter [c] = false
  upper : isUpper [c] = false
  lower : isLower [c] = !c.isDigit
  lowered : c.toLower = c
  uncapitalized : isUppercase c = false
  cluster : ClusterClass.ofChar c = .other

instance (c : Char) : Decidable (IsPlain c) :=
  decidable_of_iff _ (isPlain_iff c).symm

theorem isPlain (h : isColumnChar q = true) : IsPlain q :=
  forall_ascii (P := fun c => isColumnChar c = true → IsPlain c) (by decide +kernel)
    (ascii_of_isAlphanum (isAlphanum_of_isColumnChar h)) h

theorem isDigit_singleton (q : Char) : isDigit [q] = q.isDigit :=
  Bool.and_true _

theorem lowerText_columnChars (h : ∀ c ∈ cs, isColumnChar c = true) : lowerText cs = cs := by
  rw [lowerText_ascii fun c hc => ascii_of_isAlphanum (isAlphanum_of_isColumnChar (h c hc))]
  exact (List.map_congr_left fun c hc => (isPlain (h c hc)).lowered).trans (List.map_id _)

theorem capitalized_columnChars (hq : isColumnChar q = true)
    (h : ∀ c ∈ cs, isColumnChar c = true) : capitalized (q :: cs) = q.toUpper :: cs := by
  rw [capitalized, upperChar_ascii (ascii_of_isAlphanum (isAlphanum_of_isColumnChar hq)),
    lowerText_columnChars h]
  rfl

section Words

/-- The words open with `q` and read on as `cs`, every one after the first with a capital. -/
def Reads (q : Char) (cs : List Char) (ws : List (List Cluster)) : Prop :=
  ∃ word tail, ws = ([q] :: word) :: tail ∧ (∀ c ∈ word.flatten, isColumnChar c = true) ∧
    word.flatten ++ (tail.map List.flatten).flatMap capitalized = cs

theorem Reads.joinWords (hq : isColumnChar q = true) (h : Reads q cs ws) :
    joinWords (ws.map List.flatten) = q :: cs := by
  obtain ⟨word, tail, rfl, hword, hcs⟩ := h
  have hfirst : lowerText ([q] :: word).flatten = q :: word.flatten :=
    lowerText_columnChars (List.forall_mem_cons.mpr ⟨hq, hword⟩)
  rw [List.map_cons, CamelCase.joinWords, hfirst, List.cons_append, hcs]

theorem Reads.single (q : Char) : Reads q [] [[[q]]] :=
  ⟨[], [], rfl, List.forall_mem_nil _, rfl⟩

theorem Reads.cut (hr : isColumnChar r = true) (h : Reads r cs ws) (q : Char) :
    Reads q (r.toUpper :: cs) ([[q]] :: ws) := by
  obtain ⟨word, tail, rfl, hword, hcs⟩ := h
  refine ⟨[], ([r] :: word) :: tail, rfl, List.forall_mem_nil _, ?_⟩
  have hnext : capitalized ([r] :: word).flatten = r.toUpper :: word.flatten :=
    capitalized_columnChars hr hword
  rw [List.map_cons, List.flatMap_cons, hnext, List.cons_append, hcs]
  rfl

theorem Reads.extend (hr : isColumnChar r = true) (h : Reads r cs ws) (q : Char) :
    Reads q (r :: cs) (consFirst [q] ws) := by
  obtain ⟨word, tail, rfl, hword, hcs⟩ := h
  refine ⟨[r] :: word, tail, rfl, List.forall_mem_cons.mpr ⟨hr, hword⟩, ?_⟩
  rw [← hcs]
  rfl

theorem splitsBetween_columnChars (hq : isColumnChar q = true) (hr : isColumnChar r = true) :
    splitsBetween [q] [r] = (q.isDigit != r.isDigit) := by
  rw [splitsBetween, (isPlain hq).lower, (isPlain hr).lower, (isPlain hq).upper,
    (isPlain hr).upper, isDigit_singleton, isDigit_singleton]
  cases q.isDigit <;> cases r.isDigit <;> rfl

theorem splitsBetween_underscore (hq : isColumnChar q = true) :
    splitsBetween [q] ['_'] = false := by
  have hnone : isUpper ['_'] = false ∧ isLower ['_'] = false ∧ isDigit ['_'] = false := by
    decide +kernel
  rw [splitsBetween, hnone.1, hnone.2.1, hnone.2.2, (isPlain hq).upper]
  simp only [Bool.and_false, Bool.or_self]

theorem endsWord_columnChar (hq : isColumnChar q = true) (b : Cluster) (rest : List Cluster) :
    endsWord [q] (b :: rest) = splitsBetween [q] b := by
  cases rest with
  | nil => rfl
  | cons c rest =>
    rw [endsWord, (isPlain hq).upper, Bool.false_and, Bool.false_and, Bool.or_false]

theorem words_columnChar (hq : isColumnChar q = true) (b : Cluster) (rest : List Cluster) :
    words ([q] :: b :: rest) =
      if splitsBetween [q] b then [[q]] :: words (b :: rest)
      else consFirst [q] (words (b :: rest)) := by
  rw [words, (isPlain hq).delimiter, if_neg Bool.false_ne_true, endsWord_columnChar hq]

theorem words_single (hq : isColumnChar q = true) : words [[q]] = [[[q]]] := by
  rw [words, (isPlain hq).delimiter, endsWord]
  rfl

theorem words_underscore (hq : isColumnChar q = true) (rest : List Cluster) :
    words ([q] :: ['_'] :: rest) = [[q]] :: words rest := by
  have hdelimiter : isDelimiter ['_'] = true := rfl
  rw [words_columnChar hq, splitsBetween_underscore hq, if_neg Bool.false_ne_true, words,
    if_pos hdelimiter]
  rfl

end Words

def raisedAfter (q : Char) : List Char → List Char
  | [] => []
  | r :: rest => (if q.isDigit then r.toUpper else r) :: raisedAfter r rest

def raised : List Char → List Char
  | [] => []
  | c :: rest => c :: raisedAfter c rest

def restored (name : String) : String :=
  String.ofList (raised name.toList)

def DigitsEndWords (cs : List Char) : Prop :=
  cs.IsChain fun q r => q.isDigit = true → r.isLower = false

instance : Decidable (DigitsEndWords cs) :=
  inferInstanceAs (Decidable (cs.IsChain _))

section Alphanumeric

@[mk_iff]
structure HasCases (c : Char) : Prop where
  lowered : isColumnChar c.toLower = true ∧ c.toLower.isDigit = c.isDigit
  raised : c.toUpper.toUpper = c.toUpper ∧ c.toUpper.isDigit = c.isDigit
  stays_iff : c.toUpper = c ↔ c.isLower = false
  digit : c.isDigit = true → c.toUpper = c
  capital : c.isUpper = true → c.toUpper = c ∧ c.toLower.toUpper = c
  column : c.isUpper = false → isColumnChar c = true

instance (c : Char) : Decidable (HasCases c) :=
  decidable_of_iff _ (hasCases_iff c).symm

theorem hasCases (h : q.isAlphanum = true) : HasCases q :=
  forall_ascii (P := fun c => c.isAlphanum = true → HasCases c) (by decide +kernel)
    (ascii_of_isAlphanum h) h

theorem tailChar_capital (h : r.isAlphanum = true) (hupper : r.isUpper = true) :
    SnakeCase.tailChar r = ['_', r.toLower] := by
  have hascii := ascii_of_isAlphanum h
  rw [SnakeCase.tailChar_upper ((isUppercase_ascii hascii).trans hupper), lowerChar_ascii hascii]

theorem tailChar_other (h : r.isAlphanum = true) (hupper : r.isUpper = false) :
    SnakeCase.tailChar r = [r] :=
  SnakeCase.tailChar_lower ((isUppercase_ascii (ascii_of_isAlphanum h)).trans hupper)

end Alphanumeric

theorem raisedAfter_congr (h : q.isDigit = r.isDigit) : raisedAfter q cs = raisedAfter r cs := by
  cases cs with
  | nil => rfl
  | cons c cs => rw [raisedAfter, raisedAfter, h]

theorem reads_tail (hq : isColumnChar q = true) (h : ∀ c ∈ cs, c.isAlphanum = true) :
    Reads q (raisedAfter q cs)
      (words ([q] :: (cs.flatMap SnakeCase.tailChar).map fun c => [c])) := by
  induction cs generalizing q with
  | nil =>
    rw [List.flatMap_nil, List.map_nil, words_single hq]
    exact Reads.single q
  | cons r cs ih =>
    obtain ⟨hr, hcs⟩ := List.forall_mem_cons.mp h
    cases hupper : r.isUpper with
    | true =>
      -- The underscore cuts here, digit or not, and a capital is raised to itself.
      have hcolumn := (hasCases hr).lowered.1
      have hcapital : (if q.isDigit then r.toUpper else r) = r.toLower.toUpper := by
        obtain ⟨hkept, hback⟩ := (hasCases hr).capital hupper
        rw [hkept, hback, ite_self]
      rw [List.flatMap_cons, tailChar_capital hr hupper, List.cons_append, List.cons_append,
        List.nil_append, List.map_cons, List.map_cons, words_underscore hq, raisedAfter, hcapital,
        raisedAfter_congr (hasCases hr).lowered.2.symm]
      exact (ih hcolumn hcs).cut hcolumn q
    | false =>
      have hcolumn := (hasCases hr).column hupper
      rw [List.flatMap_cons, tailChar_other hr hupper, List.singleton_append, List.map_cons,
        words_columnChar hq, splitsBetween_columnChars hq hcolumn, raisedAfter]
      cases hdigit : q.isDigit <;> cases hdigit' : r.isDigit
      · exact (ih hcolumn hcs).extend hcolumn q
      · have hcut := (ih hcolumn hcs).cut hcolumn q
        rw [(hasCases hr).digit hdigit'] at hcut
        exact hcut
      · exact (ih hcolumn hcs).cut hcolumn q
      · rw [if_pos rfl, (hasCases hr).digit hdigit']
        exact (ih hcolumn hcs).extend hcolumn q

theorem ofChar_tailChar (h : r.isAlphanum = true) :
    ∀ c ∈ SnakeCase.tailChar r, ClusterClass.ofChar c = .other := by
  cases hupper : r.isUpper with
  | true =>
    rw [tailChar_capital h hupper]
    exact List.forall_mem_cons.mpr
      ⟨rfl, List.forall_mem_singleton.mpr (isPlain (hasCases h).lowered.1).cluster⟩
  | false =>
    rw [tailChar_other h hupper]
    exact List.forall_mem_singleton.mpr (isPlain ((hasCases h).column hupper)).cluster

theorem isFieldName_iff {name : String} : isFieldName name = true ↔
    ∃ c cs, name.toList = c :: cs ∧ c.isLower = true ∧ ∀ d ∈ cs, d.isAlphanum = true := by
  rw [isFieldName]
  cases name.toList with
  | nil => simp
  | cons c cs => simp

theorem normalize_fieldName {name : String} (hname : name.toList = q :: cs)
    (hq : q.isLower = true) :
    (SnakeCase.normalize name).toList = q :: cs.flatMap SnakeCase.tailChar := by
  have hcolumn := isColumnChar_of_isLower hq
  rw [SnakeCase.normalize, String.toList_ofList, hname, SnakeCase.ofChars,
    SnakeCase.headChar_lower (isPlain hcolumn).uncapitalized, List.singleton_append]

theorem denormalize_normalize {name : String} (h : isFieldName name = true) :
    denormalize (SnakeCase.normalize name) = restored name := by
  obtain ⟨q, cs, hname, hq, hcs⟩ := isFieldName_iff.mp h
  have hcolumn := isColumnChar_of_isLower hq
  have halone : ∀ c ∈ q :: cs.flatMap SnakeCase.tailChar, ClusterClass.ofChar c = .other := by
    refine List.forall_mem_cons.mpr ⟨(isPlain hcolumn).cluster, fun c hc => ?_⟩
    obtain ⟨r, hr, hcr⟩ := List.mem_flatMap.mp hc
    exact ofChar_tailChar (hcs r hr) c hcr
  rw [denormalize, normalize_fieldName hname hq, clusters_other halone, List.map_cons,
    (reads_tail hcolumn hcs).joinWords hcolumn, restored, hname, raised]

section Restored

theorem raisedAfter_eq_iff (h : ∀ c ∈ cs, c.isAlphanum = true) :
    raisedAfter q cs = cs ↔ DigitsEndWords (q :: cs) := by
  induction cs generalizing q with
  | nil => simp [raisedAfter, DigitsEndWords]
  | cons r cs ih =>
    obtain ⟨hr, hcs⟩ := List.forall_mem_cons.mp h
    have hhead : (if q.isDigit then r.toUpper else r) = r ↔
        (q.isDigit = true → r.isLower = false) := by
      rw [← (hasCases hr).stays_iff]
      cases q.isDigit <;> simp
    rw [raisedAfter, List.cons_eq_cons, hhead, ih hcs, DigitsEndWords, DigitsEndWords,
      List.isChain_cons_cons]

theorem raisedAfter_raisedAfter (h : ∀ c ∈ cs, c.isAlphanum = true) :
    raisedAfter q (raisedAfter q cs) = raisedAfter q cs := by
  induction cs generalizing q with
  | nil => rfl
  | cons r cs ih =>
    obtain ⟨hr, hcs⟩ := List.forall_mem_cons.mp h
    rw [raisedAfter, raisedAfter]
    cases q.isDigit with
    | false => rw [if_neg Bool.false_ne_true, if_neg Bool.false_ne_true, ih hcs]
    | true =>
      rw [if_pos rfl, if_pos rfl, (hasCases hr).raised.1,
        raisedAfter_congr (hasCases hr).raised.2, ih hcs]

variable {name other : String}

theorem restored_eq_iff (h : isFieldName name = true) :
    restored name = name ↔ DigitsEndWords name.toList := by
  obtain ⟨q, cs, hname, -, hcs⟩ := isFieldName_iff.mp h
  have hlist : restored name = name ↔ raised name.toList = name.toList :=
    ⟨fun heq => String.toList_ofList.symm.trans (congrArg String.toList heq),
      fun heq => String.toList_injective (String.toList_ofList.trans heq)⟩
  rw [hlist, hname, raised, List.cons_eq_cons, ← raisedAfter_eq_iff hcs]
  exact and_iff_right rfl

theorem restored_restored (h : isFieldName name = true) :
    restored (restored name) = restored name := by
  obtain ⟨q, cs, hname, -, hcs⟩ := isFieldName_iff.mp h
  rw [restored, restored, String.toList_ofList, hname, raised, raised,
    raisedAfter_raisedAfter hcs]

end Restored

section Injective

def fieldChars : List Char → List Char
  | [] => []
  | '_' :: c :: cs => c.toUpper :: fieldChars cs
  | c :: cs => c :: fieldChars cs

theorem fieldChars_flatMap_tailChar (h : ∀ c ∈ cs, c.isAlphanum = true) :
    fieldChars (cs.flatMap SnakeCase.tailChar) = cs := by
  induction cs with
  | nil => rfl
  | cons r cs ih =>
    obtain ⟨hr, hcs⟩ := List.forall_mem_cons.mp h
    cases hupper : r.isUpper with
    | true =>
      rw [List.flatMap_cons, tailChar_capital hr hupper, List.cons_append, List.singleton_append,
        fieldChars, ((hasCases hr).capital hupper).2, ih hcs]
    | false =>
      have hne : r ≠ '_' := by
        rintro rfl
        contradiction
      rw [List.flatMap_cons, tailChar_other hr hupper, List.singleton_append, fieldChars, ih hcs]
      exact fun _ _ hr' _ => hne hr'

theorem normalize_injective {name other : String} (hname : isFieldName name = true)
    (hother : isFieldName other = true)
    (h : SnakeCase.normalize name = SnakeCase.normalize other) : name = other := by
  obtain ⟨q, cs, hcs, hq, halnum⟩ := isFieldName_iff.mp hname
  obtain ⟨r, ds, hds, hr, halnum'⟩ := isFieldName_iff.mp hother
  have hlist := congrArg String.toList h
  rw [normalize_fieldName hcs hq, normalize_fieldName hds hr, List.cons_eq_cons] at hlist
  have htail := congrArg fieldChars hlist.2
  rw [fieldChars_flatMap_tailChar halnum, fieldChars_flatMap_tailChar halnum'] at htail
  exact String.toList_injective (by rw [hcs, hds, hlist.1, htail])

end Injective

end CamelCase

end WideColumn
