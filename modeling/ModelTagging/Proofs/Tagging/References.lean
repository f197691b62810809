import Mathlib.Data.Prod.Lex
import ModelTagging.Proofs.Registry.TypeNames
import ModelTagging.Proofs.Tagging.Checks

/-!
# References to types

Which command sets pass the check of types beside a model and the built-in namespaces,
and what is reported of those that do not. Only arguments that are references count, and
each has to name something: a primitive type, or a declaration by its qualified name. The
reference that is reported is the first one that does not, by the position of its command
and then by the place of the argument. What a document is rejected for in parsing is no
subject here; the check hands it on.
-/

namespace ModelTagging

/-- The type name that an argument refers to. -/
def Argument.reference? : Argument → Option String
  | .typeReference typeName _ => some typeName
  | _ => none

/-- Only type references refer to one. -/
theorem Argument.reference?_eq_some_iff {argument : Argument} {typeName : String} :
    argument.reference? = some typeName ↔
      ∃ isArray, argument = .typeReference typeName isArray := by
  cases argument <;> simp [reference?]

namespace Decorator

/-- The argument at this place is a reference to the type name. -/
def RefersAt (decorator : Decorator) (place : Nat) (typeName : String) : Prop :=
  ∃ isArray, (decorator.arguments.getD [])[place]? = some (.typeReference typeName isArray)

/-- The argument at a place refers to the type name exactly if it is there and does. -/
theorem refersAt_iff {decorator : Decorator} {place : Nat} {typeName : String} :
    decorator.RefersAt place typeName ↔
      ∃ argument, (decorator.arguments.getD [])[place]? = some argument ∧
        argument.reference? = some typeName := by
  simp only [RefersAt, Argument.reference?_eq_some_iff]
  constructor
  · rintro ⟨isArray, hplace⟩
    exact ⟨_, hplace, isArray, rfl⟩
  · rintro ⟨_, hplace, isArray, rfl⟩
    exact ⟨isArray, hplace⟩

/-- The type names referred to are those of some argument. -/
theorem mem_typeReferences_iff_refersAt {decorator : Decorator} {typeName : String} :
    typeName ∈ decorator.typeReferences ↔ ∃ place, decorator.RefersAt place typeName := by
  rw [mem_typeReferences]
  simp only [RefersAt, List.mem_iff_getElem?]
  exact exists_comm

/-- What is found among the type names referred to stands at the first place that
refers to such a name. -/
theorem find?_typeReferences_eq_some_iff {decorator : Decorator} {p : String → Bool}
    {typeName : String} :
    decorator.typeReferences.find? p = some typeName ↔
      ∃ place, decorator.RefersAt place typeName ∧ p typeName = true ∧
        ∀ earlier < place, ∀ other, decorator.RefersAt earlier other → p other = false := by
  have hreferences : decorator.typeReferences =
      (decorator.arguments.getD []).filterMap Argument.reference? := rfl
  simp only [refersAt_iff]
  rw [hreferences, List.find?_filterMap, Option.bind_eq_some_iff]
  simp only [List.find?_eq_some_iff_getElem]
  constructor
  · rintro ⟨argument, ⟨hfits, place, hlt, rfl, hbefore⟩, hreference⟩
    refine ⟨place, ⟨_, List.getElem?_eq_getElem hlt, hreference⟩, ?_, ?_⟩
    · simpa [hreference] using hfits
    · rintro earlier hearlier other ⟨argument, hargument, hother⟩
      obtain ⟨hbound, rfl⟩ := List.getElem?_eq_some_iff.1 hargument
      simpa [hother] using hbefore earlier hearlier
  · rintro ⟨place, ⟨argument, hargument, hreference⟩, hfits, hbefore⟩
    obtain ⟨hlt, rfl⟩ := List.getElem?_eq_some_iff.1 hargument
    refine ⟨_, ⟨by simpa [hreference] using hfits, place, hlt, rfl, fun earlier hearlier => ?_⟩,
      hreference⟩
    cases hother : Argument.reference? ((decorator.arguments.getD [])[earlier]) with
    | none => simp
    | some other =>
      have hnot := hbefore earlier hearlier other
        ⟨_, List.getElem?_eq_getElem (hearlier.trans hlt), hother⟩
      simp [hnot]

end Decorator

namespace CommandSet

/-- The command at this position refers, by the argument at this place, to a type name
that stands for nothing. -/
structure UnresolvedAt (registry : Registry) (set : CommandSet) (position place : Nat)
    (command : Command) (typeName : String) : Prop where
  /-- The command is there. -/
  command_at : set.commands[position]? = some command
  /-- Its decorator refers to the type name. -/
  refersAt : command.decorator.RefersAt place typeName
  /-- The type name is neither primitive nor declared. -/
  not_isType : ¬registry.IsType typeName

/-- Of all such references this is the first, by the position of the command and then
by the place of the argument. -/
def FirstUnresolved (registry : Registry) (set : CommandSet) (position place : Nat)
    (command : Command) (typeName : String) : Prop :=
  set.UnresolvedAt registry position place command typeName ∧
    ∀ position' place' command' typeName',
      set.UnresolvedAt registry position' place' command' typeName' →
        toLex (position, place) ≤ toLex (position', place')

/-- From any position on, what is found belongs to the first command with a reference
that does not resolve. -/
theorem unresolvedFrom_eq_some_iff (registry : Registry) (start : Nat) (commands : List Command)
    (unknown : UnknownType) :
    unresolvedFrom registry start commands = some unknown ↔
      ∃ position command typeName, commands[position]? = some command ∧
        (command.decorator.typeReferences.find? fun name => !registry.resolves name) =
          some typeName ∧
        (∀ earlier < position, ∀ other, commands[earlier]? = some other →
          (other.decorator.typeReferences.find? fun name => !registry.resolves name) = none) ∧
        unknown = ⟨typeName, some (decoratorPlace (start + position) command.decorator)⟩ := by
  induction commands generalizing start with
  | nil => simp [unresolvedFrom]
  | cons command rest ih =>
    rw [unresolvedFrom]
    cases hfind : command.decorator.typeReferences.find? fun name => !registry.resolves name with
    | some typeName =>
      constructor
      · rintro ⟨⟩
        exact ⟨0, command, typeName, rfl, hfind,
          fun earlier hlt => absurd hlt (Nat.not_lt_zero earlier), rfl⟩
      · rintro ⟨position, found, name, hfound, hname, hbefore, rfl⟩
        cases position with
        | zero =>
          obtain rfl := Option.some.inj hfound
          rw [hfind] at hname
          obtain rfl := Option.some.inj hname
          rfl
        | succ position =>
          have hnone := hbefore 0 (Nat.succ_pos _) command rfl
          exact absurd (hfind.symm.trans hnone) (by simp)
    | none =>
      rw [ih]
      constructor
      · rintro ⟨position, found, name, hfound, hname, hbefore, rfl⟩
        refine ⟨position + 1, found, name, hfound, hname, ?_, by rw [Nat.add_right_comm]; rfl⟩
        intro earlier hlt other hother
        cases earlier with
        | zero =>
          obtain rfl := Option.some.inj hother
          exact hfind
        | succ earlier => exact hbefore earlier (Nat.lt_of_succ_lt_succ hlt) other hother
      · rintro ⟨position, found, name, hfound, hname, hbefore, rfl⟩
        cases position with
        | zero =>
          obtain rfl := Option.some.inj hfound
          exact absurd (hfind.symm.trans hname) (by simp)
        | succ position =>
          refine ⟨position, found, name, hfound, hname, ?_, by rw [Nat.add_right_comm]; rfl⟩
          intro earlier hlt
          exact hbefore (earlier + 1) (Nat.succ_lt_succ hlt)

/-- Nothing is found among the references of a command exactly if all of them resolve. -/
theorem find?_typeReferences_eq_none_iff {registry : Registry} (h : registry.WellFormed)
    {set : CommandSet} {position : Nat} {command : Command}
    (hcommand : set.commands[position]? = some command) :
    (command.decorator.typeReferences.find? fun name => !registry.resolves name) = none ↔
      ∀ place typeName, ¬set.UnresolvedAt registry position place command typeName := by
  rw [List.find?_eq_none]
  simp only [Bool.not_eq_true', Bool.not_eq_false, h.resolves_iff]
  constructor
  · intro hall place typeName hunresolved
    exact hunresolved.not_isType
      (hall typeName (Decorator.mem_typeReferences_iff_refersAt.2 ⟨place, hunresolved.refersAt⟩))
  · intro hnone typeName hmem
    obtain ⟨place, hplace⟩ := Decorator.mem_typeReferences_iff_refersAt.1 hmem
    by_contra hunknown
    exact hnone place typeName ⟨hcommand, hplace, hunknown⟩

/-- The type that is reported is that of the first reference that does not resolve. -/
theorem unresolved?_eq_some_iff {registry : Registry} (h : registry.WellFormed)
    (set : CommandSet) (unknown : UnknownType) :
    set.unresolved? registry = some unknown ↔
      ∃ position place command typeName,
        set.FirstUnresolved registry position place command typeName ∧
          unknown = ⟨typeName, some (decoratorPlace position command.decorator)⟩ := by
  have hunknown (name : String) : (!registry.resolves name) = true ↔ ¬registry.IsType name := by
    rw [← h.resolves_iff]
    simp
  rw [unresolved?, unresolvedFrom_eq_some_iff]
  simp only [Nat.zero_add]
  constructor
  · rintro ⟨position, command, typeName, hcommand, hfind, hearlier, rfl⟩
    obtain ⟨place, hrefers, hname, hbefore⟩ := Decorator.find?_typeReferences_eq_some_iff.1 hfind
    refine ⟨position, place, command, typeName,
      ⟨⟨hcommand, hrefers, (hunknown typeName).1 hname⟩, ?_⟩, rfl⟩
    intro position' place' command' typeName' hother
    rw [Prod.Lex.toLex_le_toLex]
    -- an unresolved reference stands neither in an earlier command nor at an earlier place
    rcases Nat.lt_trichotomy position' position with hlt | rfl | hlt
    · have hclean := (find?_typeReferences_eq_none_iff h hother.command_at).1
        (hearlier position' hlt command' hother.command_at)
      exact absurd hother (hclean place' typeName')
    · refine .inr ⟨rfl, Nat.le_of_not_lt fun hplace => ?_⟩
      obtain rfl : command = command' :=
        Option.some.inj (hcommand.symm.trans hother.command_at)
      have hresolved := hbefore place' hplace typeName' hother.refersAt
      exact absurd ((hunknown typeName').2 hother.not_isType) (by simp [hresolved])
    · exact .inl hlt
  · rintro ⟨position, place, command, typeName, ⟨hunresolved, hfirst⟩, rfl⟩
    refine ⟨position, command, typeName, hunresolved.command_at,
      Decorator.find?_typeReferences_eq_some_iff.2 ⟨place, hunresolved.refersAt,
        (hunknown typeName).2 hunresolved.not_isType, ?_⟩, ?_, rfl⟩
    · intro earlier hlt other hrefers
      by_contra hresolved
      have hle := hfirst position earlier command other ⟨hunresolved.command_at, hrefers,
        (hunknown other).1 (by simpa using hresolved)⟩
      rcases Prod.Lex.toLex_le_toLex.1 hle with hposition | ⟨-, hplace⟩
      · exact absurd hposition (Nat.lt_irrefl position)
      · exact absurd hlt (Nat.not_lt.2 hplace)
    · intro earlier hlt other hother
      refine (find?_typeReferences_eq_none_iff h hother).2 fun place' typeName' hunresolved' => ?_
      have hle := hfirst earlier place' other typeName' hunresolved'
      rcases Prod.Lex.toLex_le_toLex.1 hle with hposition | ⟨hposition, -⟩
      · exact absurd hlt (Nat.lt_asymm hposition)
      · exact absurd hposition (Nat.ne_of_gt hlt)

/-- No type is reported exactly if every reference resolves. -/
theorem unresolved?_eq_none_iff {registry : Registry} (h : registry.WellFormed)
    (set : CommandSet) :
    set.unresolved? registry = none ↔ ∀ command ∈ set.commands, ∀ place typeName,
      command.decorator.RefersAt place typeName → registry.IsType typeName := by
  rw [unresolved?, unresolvedFrom_eq_none_iff]
  simp only [h.resolves_iff, Decorator.mem_typeReferences_iff_refersAt, forall_exists_index]
  exact forall₂_congr fun _ _ => forall_comm

end CommandSet

/-- The wording of a type that was looked up somewhere begins with that place. -/
theorem UnknownType.message_of_context {context : String} (h : context.isEmpty = false)
    (typeName : String) :
    message ⟨typeName, some context⟩ =
      context ++ ": type \"" ++ typeName ++ "\" is not defined" := by
  have hparts : ": type \"" = ": " ++ "type \"" := rfl
  simp only [message, h, Bool.false_eq_true, if_false, hparts, String.append_assoc]

/-- The wording of an unresolved type holds the position of the command, the name of
its decorator and the name of the type. -/
theorem CommandSetError.message_unresolvedType (position : Nat) (decorator : Decorator)
    (typeName : String) :
    message (.unresolvedType
        ⟨typeName, some (CommandSet.decoratorPlace position decorator)⟩) =
      "Invalid decorator command set: commands[" ++ toString position ++ "].decorator." ++
        decorator.name ++ ": type \"" ++ typeName ++ "\" is not defined" := by
  have hplace : (CommandSet.decoratorPlace position decorator).isEmpty = false := by
    rw [CommandSet.decoratorPlace]
    simp
  have hsubject : "Invalid decorator command set: commands[" =
      subject ++ (": " ++ "commands[") := rfl
  have hmessage (unknown : UnknownType) :
      message (.unresolvedType unknown) = subject ++ ": " ++ unknown.message := rfl
  rw [hmessage, UnknownType.message_of_context hplace, CommandSet.decoratorPlace, hsubject]
  simp only [String.append_assoc]

namespace CommandSource

variable {source : CommandSource} {set : CommandSet} (hset : source.set = .ok set)

include hset

/-- The set of a source passes the check of types, as it is, if no type is reported. -/
theorem checkedSet_eq_ok_iff (registry : Registry) {result : CommandSet} :
    source.checkedSet registry = .ok result ↔
      result = set ∧ set.unresolved? registry = none := by
  rw [checkedSet, hset]
  cases hunresolved : set.unresolved? registry <;> simp [hunresolved, eq_comm]

/-- Otherwise it fails with the type that is reported. -/
theorem checkedSet_eq_error_iff (registry : Registry) {error : CommandSetError} :
    source.checkedSet registry = .error error ↔
      ∃ unknown, set.unresolved? registry = some unknown ∧ error = .unresolvedType unknown := by
  rw [checkedSet, hset]
  cases hunresolved : set.unresolved? registry <;> simp [hunresolved, eq_comm]

end CommandSource

namespace Registry

/-- A source that gives no set fails the check of types with its own error. A set passes
it exactly if every reference of its decorators names a type of the model or of the
built-in namespaces, and is then given back; otherwise the first reference that does not
is reported, with the position of its command, the name of its decorator and the name of
the type. -/
theorem types_checked {registry : Registry} (hr : registry.Reachable)
    (hlacks : registry.LacksBuiltin) :
    ∃ joined : Registry, registry.forValidation = .ok joined ∧
      joined.files = registry.files ++ Builtin.files ∧
      ∀ source : CommandSource,
        (∀ error, source.set = .error error → source.checkedSet joined = .error error) ∧
        ∀ set, source.set = .ok set →
          (∀ result, source.checkedSet joined = .ok result ↔ result = set ∧
            ∀ command ∈ set.commands, ∀ place typeName,
              command.decorator.RefersAt place typeName → joined.IsType typeName) ∧
          ∀ error, source.checkedSet joined = .error error ↔
            ∃ position place command typeName,
              set.FirstUnresolved joined position place command typeName ∧
              error = .unresolvedType
                ⟨typeName, some (CommandSet.decoratorPlace position command.decorator)⟩ ∧
              error.message = "Invalid decorator command set: commands[" ++ toString position ++
                "].decorator." ++ command.decorator.name ++ ": type \"" ++ typeName ++
                "\" is not defined" := by
  obtain ⟨hjoined, h⟩ := hr.wellFormed.forValidation_eq_ok hlacks
  refine ⟨registry.joined, hjoined, rfl, fun source => ⟨fun error herror => ?_, ?_⟩⟩
  · rw [CommandSource.checkedSet, herror]
  · intro set hset
    refine ⟨fun result => ?_, fun error => ?_⟩
    · rw [CommandSource.checkedSet_eq_ok_iff hset, CommandSet.unresolved?_eq_none_iff h]
    · simp only [CommandSource.checkedSet_eq_error_iff hset, CommandSet.unresolved?_eq_some_iff h]
      constructor
      · rintro ⟨_, ⟨position, place, command, typeName, hfirst, rfl⟩, rfl⟩
        exact ⟨position, place, command, typeName, hfirst, rfl,
          CommandSetError.message_unresolvedType position command.decorator typeName⟩
      · rintro ⟨position, place, command, typeName, hfirst, rfl, -⟩
        exact ⟨_, ⟨position, place, command, typeName, hfirst, rfl⟩, rfl⟩

/-- Arguments of several kinds, two of them references to a type that nothing declares. -/
def unknownCommands : List Command :=
  [⟨.anything, ⟨"Pii", some [.text "Nobody", .typeReference "Long" false]⟩, .upsert⟩,
   ⟨.anything, ⟨"Key", some [.typeReference "org.acme.Person" true,
     .typeReference "Nobody" false, .typeReference "org.acme." false]⟩, .append⟩]

/-- The commands of the sample pass the check of types, among them one that refers to a
declaration of the model; of the other commands the first reference that does not resolve
is reported, and a text of the same spelling is none. -/
theorem types_checked_sample :
    ∃ joined : Registry, Sample.registry.forValidation = .ok joined ∧
      (CommandSource.parsed (Sample.set Sample.personCommands)).checkedSet joined =
        .ok (Sample.set Sample.personCommands) ∧
      ∃ position place command,
        (Sample.set unknownCommands).FirstUnresolved joined position place command "Nobody" := by
  have hlacks : Sample.registry.LacksBuiltin := by decide
  have h := Sample.reachable_registry.wellFormed.forValidation_eq_ok hlacks
  obtain ⟨joined, hjoined, -, hcheck⟩ := types_checked Sample.reachable_registry hlacks
  obtain rfl : Sample.registry.joined = joined := Except.ok.inj (h.1.symm.trans hjoined)
  refine ⟨_, hjoined, ?_, ?_⟩
  · refine (((hcheck (.parsed _)).2 _ rfl).1 _).2 ⟨rfl, ?_⟩
    intro command hcommand place typeName hrefers
    have hresolves : ∀ command ∈ Sample.personCommands, ∀ name ∈ command.decorator.typeReferences,
        Sample.registry.joined.resolves name = true := by decide
    exact h.2.resolves_iff.1 (hresolves command hcommand typeName
      (Decorator.mem_typeReferences_iff_refersAt.2 ⟨place, hrefers⟩))
  · have hfails : (CommandSource.parsed (Sample.set unknownCommands)).checkedSet
        Sample.registry.joined =
          .error (.unresolvedType ⟨"Nobody", some "commands[1].decorator.Key"⟩) := rfl
    obtain ⟨position, place, command, typeName, hfirst, herror, -⟩ :=
      (((hcheck (.parsed _)).2 _ rfl).2 _).1 hfails
    obtain rfl : "Nobody" = typeName := by
      simpa using congrArg (fun | .unresolvedType unknown => unknown.typeName | _ => "") herror
    exact ⟨position, place, command, hfirst⟩

end Registry

end ModelTagging
