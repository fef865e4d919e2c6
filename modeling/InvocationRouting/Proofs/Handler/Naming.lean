import InvocationRouting.Handler
import Mathlib.Data.List.TakeWhile

/-!
# Proofs.Handler.Naming — which segment names a handler type

A type name is a path of segments, and any segment may carry generic arguments: a type that is
declared inside a method of a generic type stands behind the arguments of that type. The short name
is cut at the first argument list of the whole name, before segments are told apart, so that a type
is called after the first segment that carries arguments.

* `PathSegment`, `TypePath` : type names by their segments;
* `Conventional` : the name that the rule for suffixes makes of another;
* `shortNameChars_generic`, `shortNameChars_cons` : a name with one more segment in front of it;
* `named_for_first_arguments` : the names of every type;
* `short_name_misses_inner_type` : a type that is not called after its own segment.
-/

namespace InvocationRouting
namespace HandlerType

/-! ## Type names by their segments -/

/-- No character of the text ends an identifier. -/
def IsPlain (cs : List Char) : Prop :=
  ∀ c ∈ cs, c ≠ '<' ∧ c ≠ '>' ∧ c ≠ ':'

-- The characters of the text are tried, and not all characters.
instance (cs : List Char) : Decidable (IsPlain cs) :=
  List.decidableBAll (fun c => c ≠ '<' ∧ c ≠ '>' ∧ c ≠ ':') cs

/-- A segment of a path: an identifier, and what stands between its angle brackets if it carries
generic arguments. Any text may stand there, with separators, commas and brackets of its own. -/
structure PathSegment where
  identifier : String
  arguments : Option String
  nonempty : identifier ≠ "" := by decide
  plain : IsPlain identifier.toList := by decide

namespace PathSegment

/-- Does the segment carry generic arguments? -/
def isGeneric (segment : PathSegment) : Bool :=
  segment.arguments.isSome

/-- The text of the segment. -/
def chars (segment : PathSegment) : List Char :=
  segment.identifier.toList ++
    match segment.arguments with
    | some arguments => '<' :: (arguments.toList ++ ['>'])
    | none => []

theorem chars_of_generic {segment : PathSegment} (generic : segment.isGeneric = true) :
    ∃ more, segment.chars = segment.identifier.toList ++ '<' :: more := by
  rcases Option.isSome_iff_exists.1 generic with ⟨arguments, present⟩
  exact ⟨arguments.toList ++ ['>'], by rw [chars, present]⟩

theorem chars_of_not_generic {segment : PathSegment} (bare : segment.isGeneric = false) :
    segment.chars = segment.identifier.toList := by
  have absent : segment.arguments = none := by simpa [isGeneric] using bare
  rw [chars, absent, List.append_nil]

/-- A segment begins with a character of its identifier. -/
theorem head?_chars_append (segment : PathSegment) (more : List Char) :
    (segment.chars ++ more).head? ≠ some ':' := by
  intro colon
  cases letters : segment.identifier.toList with
  | nil => exact segment.nonempty (String.toList_eq_nil_iff.1 letters)
  | cons c rest =>
      have first : (segment.chars ++ more).head? = some c := by simp [chars, letters]
      have letter : c ∈ segment.identifier.toList := by simp [letters]
      exact (segment.plain c letter).2.2 (Option.some.inj (first.symm.trans colon))

end PathSegment

/-- A path: the segments around a type, from the outermost, and the segment of the type. -/
structure TypePath where
  enclosing : List PathSegment
  last : PathSegment

namespace TypePath

/-- The text of a path: its segments with a separator between them. -/
def chars (path : TypePath) : List Char :=
  path.enclosing.foldr (fun segment rest => segment.chars ++ ':' :: ':' :: rest) path.last.chars

/-- The type name that the path spells. -/
def typeName (path : TypePath) : String :=
  String.ofList path.chars

theorem chars_cons (segment : PathSegment) (enclosing : List PathSegment) (last : PathSegment) :
    chars ⟨segment :: enclosing, last⟩ = segment.chars ++ ':' :: ':' :: chars ⟨enclosing, last⟩ :=
  rfl

theorem head?_chars (path : TypePath) : path.chars.head? ≠ some ':' := by
  rcases path with ⟨enclosing, last⟩
  cases enclosing with
  | nil => simpa [chars] using last.head?_chars_append []
  | cons segment enclosing =>
      rw [chars_cons]
      exact segment.head?_chars_append _

end TypePath

/-! ## Segments in front of a name -/

theorem afterLastSeparator?_of_notMem {cs : List Char} (h : ':' ∉ cs) :
    afterLastSeparator? cs = none := by
  induction cs with
  | nil => rfl
  | cons c rest ih =>
      rw [List.mem_cons, not_or] at h
      rw [afterLastSeparator?, ih h.2]
      simp [Ne.symm h.1]

theorem afterLastSeparator?_append (xs : List Char) {ys segment : List Char}
    (found : afterLastSeparator? ys = some segment) :
    afterLastSeparator? (xs ++ ys) = some segment := by
  induction xs with
  | nil => exact found
  | cons x xs ih => simp [afterLastSeparator?, ih]

/-- Behind a separator, the last segment is that of the rest, unless a third colon follows. -/
theorem afterLastSeparator?_separator (xs : List Char) {ys : List Char}
    (h : ys.head? ≠ some ':') :
    afterLastSeparator? (xs ++ ':' :: ':' :: ys) = some ((afterLastSeparator? ys).getD ys) := by
  refine afterLastSeparator?_append xs ?_
  cases later : afterLastSeparator? ys with
  | some segment => exact afterLastSeparator?_append [':', ':'] later
  | none =>
      have single : afterLastSeparator? (':' :: ys) = none := by
        cases ys with
        | nil => rfl
        | cons y rest =>
            have other : y ≠ ':' := fun colon => h (by rw [colon]; rfl)
            rw [afterLastSeparator?.eq_def]
            simp [later, other]
      rw [afterLastSeparator?, single]
      rfl

theorem IsPlain.takeWhile_append {cs : List Char} (plain : IsPlain cs) (rest : List Char) :
    (cs ++ rest).takeWhile (· != '<') = cs ++ rest.takeWhile (· != '<') :=
  List.takeWhile_append_of_pos fun c member => by simpa using (plain c member).1

/-- Whatever follows an identifier with arguments, the name is cut before them. -/
theorem shortNameChars_generic {cs : List Char} (plain : IsPlain cs) (more : List Char) :
    shortNameChars (cs ++ '<' :: more) = cs := by
  have unseparated : ':' ∉ cs := fun member => (plain ':' member).2.2 rfl
  simp [shortNameChars, plain.takeWhile_append, afterLastSeparator?_of_notMem unseparated]

theorem shortNameChars_of_isPlain {cs : List Char} (plain : IsPlain cs) :
    shortNameChars cs = cs := by
  have cut : cs.takeWhile (· != '<') = cs := by simpa using plain.takeWhile_append []
  have unseparated : ':' ∉ cs := fun member => (plain ':' member).2.2 rfl
  simp [shortNameChars, cut, afterLastSeparator?_of_notMem unseparated]

/-- A segment without arguments in front of a name does not change its short name. -/
theorem shortNameChars_cons {cs rest : List Char} (plain : IsPlain cs)
    (h : rest.head? ≠ some ':') :
    shortNameChars (cs ++ ':' :: ':' :: rest) = shortNameChars rest := by
  have cut : (cs ++ ':' :: ':' :: rest).takeWhile (· != '<') =
      cs ++ ':' :: ':' :: rest.takeWhile (· != '<') := plain.takeWhile_append _
  have head : (rest.takeWhile (· != '<')).head? ≠ some ':' := by
    rw [List.head?_takeWhile]
    intro colon
    exact h (Option.eq_some_of_filter_eq_some colon)
  simp only [shortNameChars, cut, afterLastSeparator?_separator cs head, Option.getD_some]

/-- Segments without arguments are passed over, and the first one that carries some is the last one
that is seen. -/
theorem shortNameChars_chars (path : TypePath) :
    shortNameChars path.chars =
      ((path.enclosing.find? (·.isGeneric)).getD path.last).identifier.toList := by
  rcases path with ⟨enclosing, last⟩
  -- From the outside inwards: the first argument list hides all that is further inside.
  induction enclosing with
  | nil =>
      cases generic : last.isGeneric with
      | true =>
          rcases PathSegment.chars_of_generic generic with ⟨more, text⟩
          exact (congrArg shortNameChars text).trans (shortNameChars_generic last.plain more)
      | false =>
          have text := PathSegment.chars_of_not_generic generic
          exact (congrArg shortNameChars text).trans (shortNameChars_of_isPlain last.plain)
  | cons segment enclosing ih =>
      rw [TypePath.chars_cons]
      cases generic : segment.isGeneric with
      | true =>
          rcases PathSegment.chars_of_generic generic with ⟨more, text⟩
          rw [text, List.append_assoc, List.cons_append, shortNameChars_generic segment.plain]
          simp [generic]
      | false =>
          rw [PathSegment.chars_of_not_generic generic,
            shortNameChars_cons segment.plain (TypePath.head?_chars _), ih]
          simp [generic]

/-! ## Conventional names -/

/-- The words that a conventional name does not end with. -/
def handlerWords : List String :=
  ["Handler", "Controller"]

/-- What the rule for suffixes makes of a name: one word is dropped from its end if something is
left before it, and a name that ends in no word, or is one, stays as it is. -/
inductive Conventional : String → String → Prop where
  | dropped {rest word : String} :
      word ∈ handlerWords → rest ≠ "" → Conventional (rest ++ word) rest
  | kept {name : String} :
      (∀ word ∈ handlerWords, ∀ rest, name = rest ++ word → rest = "") → Conventional name name

theorem dropSuffix?_eq_some_iff {name suffix rest : List Char} :
    dropSuffix? name suffix = some rest ↔ name = rest ++ suffix ∧ rest ≠ [] := by
  unfold dropSuffix?
  constructor
  · intro dropped
    split at dropped
    · next ends =>
        rw [Bool.and_eq_true, decide_eq_true_eq] at ends
        rcases List.isSuffixOf_iff_suffix.1 ends.1 with ⟨left, rfl⟩
        have cut : left = rest := by simpa using dropped
        subst cut
        refine ⟨rfl, ?_⟩
        rintro rfl
        simp at ends
    · cases dropped
  · rintro ⟨rfl, left⟩
    have longer : 0 < rest.length := List.length_pos_iff.2 left
    simp [longer]

/-- No name ends in both words. -/
theorem word_unique {rest rest' word word' : String} (h : word ∈ handlerWords)
    (h' : word' ∈ handlerWords) (same : rest ++ word = rest' ++ word') : word = word' := by
  have ends : word.toList <:+ (rest ++ word).toList := by simp
  have ends' : word'.toList <:+ (rest ++ word).toList := by simp [same]
  -- Of two ends of one name the shorter one would be an end of the longer.
  have apart : ¬ "Handler".toList <:+ "Controller".toList := by decide
  simp only [handlerWords, List.mem_cons, List.not_mem_nil, or_false] at h h'
  rcases h with rfl | rfl <;> rcases h' with rfl | rfl
  · rfl
  · exact absurd (List.suffix_of_suffix_length_le ends ends' (by decide)) apart
  · exact absurd (List.suffix_of_suffix_length_le ends' ends (by decide)) apart
  · rfl

namespace Conventional

variable {short name name' : String}

theorem unique (h : Conventional short name) (h' : Conventional short name') : name = name' := by
  generalize same : short = short' at h'
  cases h with
  | dropped member left =>
      cases h' with
      | dropped member' left' =>
          have words := word_unique member member' same
          subst words
          simpa using same
      | kept whole => exact absurd (whole _ member _ same.symm) left
  | kept whole =>
      cases h' with
      | dropped member' left' => exact absurd (whole _ member' _ same) left'
      | kept whole' => exact same

theorem toList_prefix (h : Conventional short name) : name.toList <+: short.toList := by
  cases h with
  | dropped member left => simp
  | kept whole => exact List.prefix_rfl

theorem ne_empty (h : Conventional short name) (visible : short ≠ "") : name ≠ "" := by
  cases h with
  | dropped member left => exact left
  | kept whole => exact visible

end Conventional

theorem conventionalSuffixes_eq :
    conventionalSuffixes = handlerWords.map String.toList := rfl

/-- The computed name is the one that the rule makes. -/
theorem conventional_conventionalNameChars (short : List Char) :
    Conventional (String.ofList short) (String.ofList (conventionalNameChars short)) := by
  unfold conventionalNameChars
  cases found : conventionalSuffixes.findSome? (dropSuffix? short) with
  | some rest =>
      rcases List.exists_of_findSome?_eq_some found with ⟨chars, member, dropped⟩
      rw [conventionalSuffixes_eq, List.mem_map] at member
      rcases member with ⟨word, member, rfl⟩
      rcases dropSuffix?_eq_some_iff.1 dropped with ⟨rfl, left⟩
      have made : Conventional (String.ofList rest ++ word) (String.ofList rest) :=
        .dropped member (by simpa [String.ofList_eq_empty_iff] using left)
      simpa [String.ofList_append] using made
  | none =>
      rw [List.findSome?_eq_none_iff] at found
      refine .kept ?_
      intro word member rest whole
      have undropped : dropSuffix? short word.toList = none :=
        found _ (conventionalSuffixes_eq ▸ List.mem_map_of_mem member)
      by_contra left
      have dropped : dropSuffix? short word.toList = some rest.toList := by
        refine dropSuffix?_eq_some_iff.2 ⟨?_, ?_⟩
        · simpa using congrArg String.toList whole
        · simpa using left
      rw [undropped] at dropped
      cases dropped

theorem conventional_iff {type : HandlerType} {name : String} :
    Conventional type.shortName name ↔ type.conventionalName = name := by
  have computed := conventional_conventionalNameChars (shortNameChars type.typeName.toList)
  constructor
  · intro made
    exact computed.unique made
  · rintro rfl
    exact computed

/-! ## The names of a type -/

theorem shortName_typeName (id : Nat) (path : TypePath) :
    shortName ⟨id, path.typeName⟩ =
      ((path.enclosing.find? (·.isGeneric)).getD path.last).identifier := by
  rw [shortName, TypePath.typeName, String.toList_ofList, shortNameChars_chars,
    String.ofList_toList]

/-- **Naming.** A type is called after the first segment around it that carries generic arguments,
or after its own segment if none does. So it is called after its own segment exactly if no segment
around it carries arguments, or the first that does has the same identifier. The conventional name
is what the rule for suffixes makes of the identifier that counts; it is not empty and begins that
identifier. -/
theorem named_for_first_arguments (id : Nat) (path : TypePath) :
    let type : HandlerType := ⟨id, path.typeName⟩
    type.shortName = ((path.enclosing.find? (·.isGeneric)).getD path.last).identifier ∧
    (type.shortName = path.last.identifier ↔
      ∀ segment, path.enclosing.find? (·.isGeneric) = some segment →
        segment.identifier = path.last.identifier) ∧
    (∀ name, Conventional type.shortName name ↔ type.conventionalName = name) ∧
    type.conventionalName ≠ "" ∧ type.conventionalName.toList <+: type.shortName.toList := by
  intro type
  have short : type.shortName = _ := shortName_typeName id path
  have made : Conventional type.shortName type.conventionalName := conventional_iff.2 rfl
  have visible : type.shortName ≠ "" := by
    rw [short]
    exact PathSegment.nonempty _
  refine ⟨short, ?_, fun name => conventional_iff, made.ne_empty visible, made.toList_prefix⟩
  rw [short]
  cases first : path.enclosing.find? (·.isGeneric) with
  | none => simp
  | some segment => simp

/-- A type inside a method of a generic type of the same name, with nested brackets, separators and
commas between the brackets of both. -/
def sameNameWithin : TypePath where
  enclosing :=
    [.mk "app" none, .mk "Handler" (some "alloc::vec::Vec<app::Item<u8>>, i32"),
      .mk "open" none]
  last := .mk "Handler" (some "core::option::Option<app::Item<u8>>")

theorem named_for_first_arguments_sameNameWithin :
    sameNameWithin.typeName =
        "app::Handler<alloc::vec::Vec<app::Item<u8>>, i32>::open::Handler<" ++
          "core::option::Option<app::Item<u8>>>" ∧
      shortName ⟨0, sameNameWithin.typeName⟩ = "Handler" ∧
      Conventional (shortName ⟨0, sameNameWithin.typeName⟩) "Handler" := by
  rcases named_for_first_arguments 0 sameNameWithin with ⟨-, own, rule, -, -⟩
  refine ⟨by decide +kernel, own.2 ?_, (rule "Handler").2 (by decide +kernel)⟩
  intro segment first
  cases first
  rfl

/-- A type that is declared inside a method of a generic type. -/
def innerHandler : TypePath where
  enclosing := [.mk "app" none, .mk "Outer" (some "T"), .mk "serve" none]
  last := .mk "InnerHandler" none

/-- The inner type is called after the outer one, and its conventional name does not begin its own
identifier. -/
theorem short_name_misses_inner_type :
    innerHandler.typeName = "app::Outer<T>::serve::InnerHandler" ∧
      shortName ⟨0, innerHandler.typeName⟩ = "Outer" ∧
      conventionalName ⟨0, innerHandler.typeName⟩ = "Outer" ∧
      ¬ (conventionalName ⟨0, innerHandler.typeName⟩).toList <+:
        innerHandler.last.identifier.toList := by
  decide +kernel

end HandlerType
end InvocationRouting
