import Mathlib.Data.List.DropRight
import Mathlib.Data.List.Induction

/-!
# Trimming texts

Trimming takes the symbols of a class off both ends of a text. Where a text is
trimmed by one class after the other and the classes are disjoint, a symbol of
none of them comes to stand first exactly if runs of the classes, in their
order, are all that stands before it. The same holds from the other end.
-/

namespace AtlasMindNetra.TrimRules

set_option autoImplicit false

universe u

variable {Symbol : Type u}

def trim (isEdge : Symbol → Bool) (text : List Symbol) : List Symbol :=
  (text.dropWhile isEdge).rdropWhile isEdge

def trimAll (classes : List (Symbol → Bool)) (text : List Symbol) : List Symbol :=
  classes.foldl (fun text isEdge => trim isEdge text) text

/-- Neither end of the text is of the class. -/
structure Trimmed (isEdge : Symbol → Bool) (text : List Symbol) : Prop where
  first : ∀ symbol, text.head? = some symbol → isEdge symbol = false
  last : ∀ symbol, text.getLast? = some symbol → isEdge symbol = false

instance (isEdge : Symbol → Bool) (text : List Symbol) : Decidable (Trimmed isEdge text) :=
  decidable_of_iff
    ((∀ symbol ∈ text.head?, isEdge symbol = false) ∧
      ∀ symbol ∈ text.getLast?, isEdge symbol = false)
    ⟨fun ends => ⟨ends.1, ends.2⟩, fun trimmed => ⟨trimmed.first, trimmed.last⟩⟩

def Leads : List (Symbol → Bool) → Symbol → List Symbol → Prop
  | [], symbol, text => text.head? = some symbol
  | isEdge :: classes, symbol, text =>
      ∃ run rest, text = run ++ rest ∧ (∀ edge ∈ run, isEdge edge = true) ∧
        Leads classes symbol rest

section OneClass

variable {isEdge : Symbol → Bool}

theorem run_or_other
    (isEdge : Symbol → Bool)
    (text : List Symbol) :
    (∀ edge ∈ text, isEdge edge = true) ∨
      ∃ run symbol rest, text = run ++ symbol :: rest ∧ (∀ edge ∈ run, isEdge edge = true) ∧
        isEdge symbol = false := by
  induction text with
  | nil => exact Or.inl nofun
  | cons first rest ih =>
      by_cases edge : isEdge first = true
      · rcases ih with all | ⟨run, symbol, more, rfl, all, other⟩
        · exact Or.inl (List.forall_mem_cons.mpr ⟨edge, all⟩)
        · have longer : ∀ inner ∈ first :: run, isEdge inner = true :=
            List.forall_mem_cons.mpr ⟨edge, all⟩
          exact Or.inr ⟨first :: run, symbol, more, rfl, longer, other⟩
      · exact Or.inr ⟨[], first, rest, rfl, nofun, Bool.eq_false_iff.mpr edge⟩

theorem rdrop_behind_other
    (core rest : List Symbol)
    (symbol : Symbol)
    (other : isEdge symbol = false) :
    (core ++ symbol :: rest).rdropWhile isEdge = core ++ symbol :: rest.rdropWhile isEdge := by
  induction rest using List.reverseRecOn with
  | nil => exact List.rdropWhile_concat_neg isEdge core symbol (by rw [other]; exact nofun)
  | append_singleton rest last ih =>
      rw [← List.cons_append, ← List.append_assoc, List.rdropWhile_concat, List.rdropWhile_concat]
      split
      · exact ih
      · rw [List.append_assoc, List.cons_append]

theorem trim_run
    (run : List Symbol)
    (all : ∀ edge ∈ run, isEdge edge = true) : trim isEdge run = [] := by
  rw [trim, List.dropWhile_eq_nil_iff.mpr all]
  rfl

theorem trim_behind_run
    (run rest : List Symbol)
    (symbol : Symbol)
    (all : ∀ edge ∈ run, isEdge edge = true)
    (other : isEdge symbol = false) :
    trim isEdge (run ++ symbol :: rest) = symbol :: rest.rdropWhile isEdge := by
  have stops : ¬ isEdge symbol = true := by simp [other]
  rw [trim, List.dropWhile_append_of_pos all, List.dropWhile_cons_of_neg stops]
  exact rdrop_behind_other [] rest symbol other

theorem trim_keeps
    (run core rest : List Symbol)
    (symbol : Symbol)
    (all : ∀ edge ∈ run, isEdge edge = true)
    (others : ∀ inner ∈ core, isEdge inner = false)
    (other : isEdge symbol = false) :
    trim isEdge (run ++ (core ++ symbol :: rest)) =
      core ++ symbol :: rest.rdropWhile isEdge := by
  cases core with
  | nil => exact trim_behind_run run rest symbol all other
  | cons first core =>
      rw [List.cons_append, trim_behind_run run _ first all (others first List.mem_cons_self),
        rdrop_behind_other core rest symbol other, List.cons_append]

theorem trim_reverse
    (text : List Symbol) : trim isEdge text.reverse = (trim isEdge text).reverse := by
  have flipped : trim isEdge text.reverse =
      ((text.rdropWhile isEdge).dropWhile isEdge).reverse := by
    rw [← List.rdropWhile_reverse]
    simp only [trim, List.rdropWhile, List.reverse_reverse]
  rw [flipped]
  rcases run_or_other isEdge text with all | ⟨run, symbol, rest, rfl, all, other⟩
  · rw [trim_run text all, List.rdropWhile_eq_nil_iff.mpr all]
    rfl
  · have stops : ¬ isEdge symbol = true := by simp [other]
    rw [trim_behind_run run rest symbol all other, rdrop_behind_other run rest symbol other,
      List.dropWhile_append_of_pos all, List.dropWhile_cons_of_neg stops]

theorem trim_first
    (text : List Symbol)
    (symbol : Symbol)
    (first : (trim isEdge text).head? = some symbol) : isEdge symbol = false := by
  rcases run_or_other isEdge text with all | ⟨run, next, rest, rfl, all, other⟩
  · rw [trim_run text all] at first
    cases first
  · rw [trim_behind_run run rest next all other] at first
    cases first
    exact other

theorem trim_trimmed
    (text : List Symbol) : Trimmed isEdge (trim isEdge text) where
  first := trim_first text
  last symbol last := by
    rw [← List.head?_reverse, ← trim_reverse] at last
    exact trim_first text.reverse symbol last

theorem trim_of_trimmed
    (text : List Symbol)
    (trimmed : Trimmed isEdge text) : trim isEdge text = text := by
  cases text with
  | nil => rfl
  | cons symbol rest =>
      have ends : ∀ nonempty, ¬ isEdge ((symbol :: rest).getLast nonempty) = true := by
        intro nonempty
        rw [trimmed.last _ (List.getLast?_eq_some_getLast nonempty)]
        exact nofun
      have stops : ¬ isEdge symbol = true := by simp [trimmed.first symbol rfl]
      rw [trim, List.dropWhile_cons_of_neg stops, List.rdropWhile_eq_self_iff]
      exact ends

theorem trim_between
    (isEdge : Symbol → Bool)
    (text : List Symbol) :
    ∃ run behind, text = run ++ (trim isEdge text ++ behind) ∧
      ∀ edge ∈ run, isEdge edge = true := by
  rcases run_or_other isEdge text with all | ⟨run, symbol, rest, rfl, all, other⟩
  · refine ⟨text, [], ?_, all⟩
    rw [trim_run text all, List.append_nil, List.append_nil]
  · rcases List.rdropWhile_prefix (p := isEdge) (l := rest) with ⟨behind, same⟩
    refine ⟨run, behind, ?_, all⟩
    rw [trim_behind_run run rest symbol all other, List.cons_append, same]

end OneClass

theorem leads_append
    (classes : List (Symbol → Bool))
    (symbol : Symbol)
    (text behind : List Symbol)
    (leads : Leads classes symbol text) : Leads classes symbol (text ++ behind) := by
  induction classes generalizing text with
  | nil =>
      rcases List.head?_eq_some_iff.mp leads with ⟨rest, rfl⟩
      rfl
  | cons isEdge classes ih =>
      rcases leads with ⟨run, rest, rfl, all, leads⟩
      exact ⟨run, rest ++ behind, List.append_assoc _ _ _, all, ih rest leads⟩

theorem leads_core
    (classes : List (Symbol → Bool))
    (symbol : Symbol)
    (text : List Symbol)
    (leads : Leads classes symbol text) :
    ∃ core rest, text = core ++ symbol :: rest ∧
      (∀ inner ∈ core, ∃ isEdge ∈ classes, isEdge inner = true) ∧
        ∀ other, Leads classes symbol (core ++ symbol :: other) := by
  induction classes generalizing text with
  | nil =>
      rcases List.head?_eq_some_iff.mp leads with ⟨rest, rfl⟩
      exact ⟨[], rest, rfl, nofun, fun _ => rfl⟩
  | cons isEdge classes ih =>
      rcases leads with ⟨run, text, rfl, all, leads⟩
      rcases ih text leads with ⟨core, rest, rfl, inside, always⟩
      refine ⟨run ++ core, rest, (List.append_assoc _ _ _).symm, ?_, fun other => ?_⟩
      · intro inner member
        rcases List.mem_append.mp member with inRun | inCore
        · exact ⟨isEdge, List.mem_cons_self, all inner inRun⟩
        · rcases inside inner inCore with ⟨isOther, listed, isInner⟩
          exact ⟨isOther, List.mem_cons_of_mem _ listed, isInner⟩
      · exact ⟨run, core ++ symbol :: other, List.append_assoc _ _ _, all, always other⟩

def Apart (isEdge isOther : Symbol → Bool) : Prop :=
  ∀ symbol, isEdge symbol = true → isOther symbol = false

theorem leads_trim_iff
    (isEdge : Symbol → Bool)
    (classes : List (Symbol → Bool))
    (apart : ∀ isOther ∈ classes, Apart isEdge isOther)
    (symbol : Symbol)
    (free : isEdge symbol = false)
    (text : List Symbol) :
    Leads classes symbol (trim isEdge text) ↔ Leads (isEdge :: classes) symbol text := by
  constructor
  · intro leads
    rcases trim_between isEdge text with ⟨run, behind, same, all⟩
    exact ⟨run, _, same, all, leads_append classes symbol _ behind leads⟩
  · rintro ⟨run, rest, rfl, all, leads⟩
    rcases leads_core classes symbol rest leads with ⟨core, rest, rfl, inside, always⟩
    have others : ∀ inner ∈ core, isEdge inner = false := by
      intro inner member
      rcases inside inner member with ⟨isOther, listed, isInner⟩
      apply Bool.eq_false_iff.mpr
      intro edge
      rw [apart isOther listed inner edge] at isInner
      cases isInner
    rw [trim_keeps run core rest symbol all others free]
    exact always _

theorem trim_all_first_iff
    (classes : List (Symbol → Bool))
    (apart : classes.Pairwise Apart)
    (symbol : Symbol)
    (free : ∀ isEdge ∈ classes, isEdge symbol = false)
    (text : List Symbol) :
    (trimAll classes text).head? = some symbol ↔ Leads classes symbol text := by
  induction classes generalizing text with
  | nil => exact Iff.rfl
  | cons isEdge classes ih =>
      rw [List.forall_mem_cons] at free
      rw [List.pairwise_cons] at apart
      rw [trimAll, List.foldl_cons]
      exact (ih apart.2 free.2 _).trans
        (leads_trim_iff isEdge classes apart.1 symbol free.1 text)

theorem trim_all_reverse
    (classes : List (Symbol → Bool))
    (text : List Symbol) : trimAll classes text.reverse = (trimAll classes text).reverse := by
  induction classes generalizing text with
  | nil => rfl
  | cons isEdge classes ih =>
      rw [trimAll, List.foldl_cons, trim_reverse]
      exact ih (trim isEdge text)

theorem trim_all_last_iff
    (classes : List (Symbol → Bool))
    (apart : classes.Pairwise Apart)
    (symbol : Symbol)
    (free : ∀ isEdge ∈ classes, isEdge symbol = false)
    (text : List Symbol) :
    (trimAll classes text).getLast? = some symbol ↔ Leads classes symbol text.reverse := by
  rw [← List.head?_reverse, ← trim_all_reverse]
  exact trim_all_first_iff classes apart symbol free text.reverse

theorem end_outside_iff
    (isBlank : Symbol → Bool)
    (atEnd : Option Symbol)
    (leads : Symbol → Prop)
    (same : ∀ symbol, isBlank symbol = true → (atEnd = some symbol ↔ leads symbol)) :
    (∀ symbol, atEnd = some symbol → isBlank symbol = false) ↔
      ∀ symbol, isBlank symbol = true → ¬ leads symbol := by
  constructor
  · intro outside symbol blank led
    have free := outside symbol ((same symbol blank).mpr led)
    rw [blank] at free
    cases free
  · intro none symbol stands
    apply Bool.eq_false_iff.mpr
    intro blank
    exact none symbol blank ((same symbol blank).mp stands)

/-- After the trims no end is of a further class unless runs led to such a symbol. -/
theorem trim_all_trimmed_iff
    (classes : List (Symbol → Bool))
    (apart : classes.Pairwise Apart)
    (isBlank : Symbol → Bool)
    (free : ∀ isEdge ∈ classes, Apart isBlank isEdge)
    (text : List Symbol) :
    Trimmed isBlank (trimAll classes text) ↔
      ∀ symbol, isBlank symbol = true →
        ¬ Leads classes symbol text ∧ ¬ Leads classes symbol text.reverse := by
  have outside (symbol : Symbol) (blank : isBlank symbol = true) :
      ∀ isEdge ∈ classes, isEdge symbol = false :=
    fun isEdge listed => free isEdge listed symbol blank
  have first := end_outside_iff isBlank (trimAll classes text).head?
    (fun symbol => Leads classes symbol text)
    fun symbol blank => trim_all_first_iff classes apart symbol (outside symbol blank) text
  have last := end_outside_iff isBlank (trimAll classes text).getLast?
    (fun symbol => Leads classes symbol text.reverse)
    fun symbol blank => trim_all_last_iff classes apart symbol (outside symbol blank) text
  constructor
  · intro trimmed symbol blank
    exact ⟨first.mp trimmed.first symbol blank, last.mp trimmed.last symbol blank⟩
  · intro none
    exact ⟨first.mpr fun symbol blank => (none symbol blank).1,
      last.mpr fun symbol blank => (none symbol blank).2⟩

theorem trim_all_plain
    (classes : List (Symbol → Bool))
    (text : List Symbol)
    (plain : ∀ isEdge ∈ classes, ∀ symbol ∈ text, isEdge symbol = false) :
    trimAll classes text = text := by
  induction classes with
  | nil => rfl
  | cons isEdge classes ih =>
      rw [List.forall_mem_cons] at plain
      have same : trim isEdge text = text := trim_of_trimmed text
        ⟨fun symbol first => plain.1 symbol (List.mem_of_head? first),
          fun symbol last => plain.1 symbol (List.mem_of_getLast? last)⟩
      rw [trimAll, List.foldl_cons, same]
      exact ih plain.2

end AtlasMindNetra.TrimRules
