import PhasedInstall.Proofs.Manifest.Items

/-!
# The images among the arguments

An argument can carry an image in two ways: behind its own equals sign, or as what the flag before
it asks for. Arguments are replaced from first to last in place, so each of them is looked at as the
one before has left it: `replaceArguments_cons` is this step, and `getElem?_replaceArguments` says
of every position what it becomes from the argument that was there and from what the position before
has become.

That is what the declared flags ask for, as long as no image that replaces an argument is a flag
with an image of its own (`Settled`). Otherwise the image is taken for that flag, and the argument
behind it is replaced though nothing asked for it.
-/

set_option autoImplicit false

namespace PhasedInstall

namespace Text

theorem mem_of_pieces {separator : Char} {cs left right : List Char}
    (cut : pieces separator cs = [left, right]) : separator ∈ cs := by
  have length := length_pieces separator cs
  rw [cut, List.length_cons, List.length_singleton] at length
  exact List.count_pos_iff.1 (by omega)

/-- What lowering makes of an equals sign is one again. -/
theorem equals_mem_lowerChars {cs : List Char} (h : '=' ∈ cs) (before : List Char) :
    '=' ∈ lowerChars before cs := by
  induction cs generalizing before with
  | nil => cases h
  | cons c rest ih =>
    rw [lowerChars]
    rcases List.mem_cons.1 h with rfl | later
    · exact List.mem_append_left _ (List.mem_singleton.2 rfl)
    · exact List.mem_append_right _ (ih later _)

end Text

namespace ImageOverrides

variable {images : ImageOverrides} {image text : String} {argument written : Json}
  {arguments result : List Json} {due : Option String} {j : Nat}

/-! ## What an argument asks for -/

/-- The image for a flag. -/
def ofFlag (images : ImageOverrides) (flag : String) : Option String :=
  Table.get? (key argumentMark flag) images

/-- The two sides of a text with one equals sign. -/
def sides? (text : String) : Option (String × String) :=
  match Text.pieces '=' text.toList with
  | [left, right] => some (String.ofList left, String.ofList right)
  | _ => none

/-- The image that an argument asks for in the next place: it is a flag without an equals sign. -/
def asked (images : ImageOverrides) : Json → Option String
  | .str text => if '=' ∈ text.toList then none else images.ofFlag text
  | _ => none

/-- What an argument becomes that is a flag with a value of its own. -/
def assigned (images : ImageOverrides) : Json → Option String
  | .str text => (sides? text).bind fun sides =>
    (images.ofFlag sides.1).map fun image => sides.1 ++ "=" ++ image
  | _ => none

/-- What stands in the place of an argument that is looked at. -/
def standing (due : Option String) (written : Json) : Json := due.elim written .str

/-- What is left of an argument that has been looked at. -/
def rewritten (images : ImageOverrides) (due : Option String) (written : Json) : Json :=
  (images.assigned (standing due written)).elim (standing due written) .str

theorem rewritten_of_assigned (h : images.assigned argument = some text) :
    images.rewritten none argument = .str text := by
  rw [rewritten, standing, Option.elim_none, h, Option.elim_some]

theorem rewritten_of_not_assigned (h : images.assigned argument = none) :
    images.rewritten none argument = argument := by
  rw [rewritten, standing, Option.elim_none, h, Option.elim_none]

theorem rewritten_some (images : ImageOverrides) (image : String) (written : Json) :
    images.rewritten (some image) written = images.rewritten none (.str image) := rfl

/-- The keys of overrides have no equals sign in them. -/
def Plain (images : ImageOverrides) : Prop := ∀ entry ∈ images, '=' ∉ entry.1.toList

instance (images : ImageOverrides) : Decidable images.Plain :=
  inferInstanceAs (Decidable (∀ entry ∈ images, _))

theorem ofFlag_of_equals (plain : images.Plain) (h : '=' ∈ text.toList) :
    images.ofFlag text = none := by
  cases found : images.ofFlag text with
  | none => rfl
  | some image =>
    have lowered : '=' ∈ (Text.lowercase text).toList := by
      rw [Text.lowercase, String.toList_ofList]
      exact Text.equals_mem_lowerChars h _
    refine absurd ?_ (plain _ (Table.mem_of_get? found))
    rw [key, underscored, String.toList_ofList, String.toList_append]
    exact List.mem_map.2 ⟨'=', List.mem_append_right _ lowered, by decide⟩

theorem sides?_eq_some {sides : String × String} (h : sides? text = some sides) :
    '=' ∈ text.toList := by
  rw [sides?] at h
  split at h
  · exact Text.mem_of_pieces ‹_›
  · cases h

/-- What has been given a value asks for nothing. -/
theorem asked_of_assigned (h : images.assigned argument = some text) :
    images.asked argument = none ∧ images.asked (.str text) = none := by
  cases argument with
  | str whole =>
    obtain ⟨sides, cut, h⟩ := Option.bind_eq_some_iff.1 h
    obtain ⟨image, -, rfl⟩ := Option.map_eq_some_iff.1 h
    refine ⟨if_pos (sides?_eq_some cut), if_pos ?_⟩
    simp
  | _ => cases h

/-- Looking at an argument does not change what it asks for. -/
theorem asked_rewritten (images : ImageOverrides) (due : Option String) (written : Json) :
    images.asked (images.rewritten due written) = images.asked (standing due written) := by
  rw [rewritten]
  cases given : images.assigned (standing due written) with
  | none => rfl
  | some text =>
    obtain ⟨before, after⟩ := asked_of_assigned given
    exact after.trans before.symm

/-! ## The walk over the arguments -/

/-- What is due stands for what was written. -/
theorem replaceArguments_standing (images : ImageOverrides) (due : Option String) (written : Json)
    (rest : List Json) :
    images.replaceArguments due (written :: rest) =
      images.replaceArguments none (standing due written :: rest) := by
  cases due <;> rfl

/-- **One step of the walk**: the argument is looked at as it stands, and what it asks for then is
due in the next place. -/
theorem replaceArguments_cons (plain : images.Plain) (due : Option String) (written : Json)
    (rest : List Json) :
    images.replaceArguments due (written :: rest) =
      images.rewritten due written ::
        images.replaceArguments (images.asked (images.rewritten due written)) rest := by
  rw [asked_rewritten, rewritten, replaceArguments_standing]
  cases standing due written with
  | str text =>
    rw [replaceArguments, assigned, asked]
    split
    · rename_i flag value cut
      have sides : sides? text = some (String.ofList flag, String.ofList value) := by
        rw [sides?, cut]
      rw [sides, if_pos (Text.mem_of_pieces cut), Option.bind_some, ofFlag]
      dsimp only
      cases Table.get? (key argumentMark (String.ofList flag)) images <;> rfl
    · rename_i whole
      have sides : sides? text = none := by
        rw [sides?]
        split
        · exact (whole _ _ ‹_›).elim
        · rfl
      have next : (if '=' ∈ text.toList then none else images.ofFlag text) =
          images.ofFlag text := by
        split
        · exact (ofFlag_of_equals plain ‹_›).symm
        · rfl
      rw [sides, next]
      rfl
  | _ => rfl

/-- The image that is asked for in a position by what stands before it. -/
def askedAt (images : ImageOverrides) (arguments : List Json) : Nat → Option String
  | 0 => none
  | j + 1 => (arguments[j]?).bind images.asked

/-- **What becomes of the arguments.** Each is looked at as it stands after the one before has been
looked at. -/
theorem getElem?_replaceArguments (plain : images.Plain) (arguments : List Json) (j : Nat) :
    (images.replaceArguments none arguments)[j]? =
      (arguments[j]?).map
        (images.rewritten (images.askedAt (images.replaceArguments none arguments) j)) := by
  -- From any position on, the walk depends only on what is due there.
  have walk : ∀ due j, (images.replaceArguments due arguments)[j]? =
      (arguments[j]?).map (images.rewritten
        (if j = 0 then due else images.askedAt (images.replaceArguments due arguments) j)) := by
    induction arguments with
    | nil => exact fun _ _ => rfl
    | cons written rest ih =>
      intro due j
      rw [replaceArguments_cons plain]
      cases j with
      | zero => rfl
      | succ j =>
        rw [List.getElem?_cons_succ, List.getElem?_cons_succ, ih]
        cases j <;> rfl
  rw [walk]
  cases j <;> rfl

/-! ## What the flags ask for -/

/-- The arguments are what the declared flags ask for. -/
structure Substitutes (images : ImageOverrides) (arguments result : List Json) : Prop where
  length : result.length = arguments.length
  /-- Nothing changes that is not asked for. -/
  only : ∀ j, result[j]? ≠ arguments[j]? →
    ((arguments[j]?).bind images.assigned).isSome ∨ (images.askedAt arguments j).isSome
  /-- What follows a flag is its image, if the flag still stands. -/
  next : ∀ j image, (arguments[j]?).bind images.asked = some image →
    result[j]? = arguments[j]? → j + 1 < arguments.length → result[j + 1]? = some (.str image)
  /-- What stands behind the equals sign of a flag is its image, if no flag stands before. -/
  own : ∀ j text, (arguments[j]?).bind images.assigned = some text →
    images.askedAt arguments j = none → result[j]? = some (.str text)

/-- An image in the place of an argument asks for nothing and stays as it is. -/
def Settled (images : ImageOverrides) : Prop :=
  ∀ flag image, '=' ∉ flag.toList → images.ofFlag flag = some image →
    images.asked (.str image) = none ∧ images.rewritten none (.str image) = .str image

theorem asked_eq_some (h : images.asked argument = some image) :
    ∃ flag, argument = .str flag ∧ '=' ∉ flag.toList ∧ images.ofFlag flag = some image := by
  cases argument with
  | str flag =>
    rw [asked] at h
    split at h
    · cases h
    · exact ⟨flag, rfl, ‹_›, h⟩
  | _ => cases h

theorem Settled.of_asked (settled : images.Settled) (h : images.asked argument = some image) :
    images.asked (.str image) = none ∧ images.rewritten none (.str image) = .str image := by
  obtain ⟨flag, -, whole, found⟩ := asked_eq_some h
  exact settled flag image whole found

/-- What a text becomes is a text. -/
theorem rewritten_str (images : ImageOverrides) (text : String) :
    ∃ text', images.rewritten none (.str text) = .str text' := by
  cases given : images.assigned (.str text) with
  | none => exact ⟨text, rewritten_of_not_assigned given⟩
  | some text' => exact ⟨text', rewritten_of_assigned given⟩

/-- What a position asks for follows from what was due there. -/
theorem askedAt_replaceArguments (plain : images.Plain) (arguments : List Json) (j : Nat) :
    images.askedAt (images.replaceArguments none arguments) (j + 1) =
      (arguments[j]?).bind fun written =>
        images.asked (standing (images.askedAt (images.replaceArguments none arguments) j)
          written) := by
  rw [askedAt, getElem?_replaceArguments plain, Option.bind_map]
  exact congrArg _ (funext (images.asked_rewritten _))

/-- Nothing is asked for but by arguments that are declared. -/
theorem Settled.declared (plain : images.Plain) (settled : images.Settled)
    (due : images.askedAt (images.replaceArguments none arguments) j = some image) :
    images.askedAt arguments j = some image := by
  cases j with
  | zero => cases due
  | succ j =>
    rw [askedAt_replaceArguments plain] at due
    cases before : images.askedAt (images.replaceArguments none arguments) j with
    | none =>
      rw [before] at due
      exact due
    | some image' =>
      -- The image that was put in this place would have to ask for the next one.
      rw [before] at due
      obtain ⟨written, -, again⟩ := Option.bind_eq_some_iff.1 due
      change images.asked (.str image') = some image at again
      cases j with
      | zero => cases before
      | succ j =>
        obtain ⟨flag, -, asks⟩ := Option.bind_eq_some_iff.1 before
        rw [(settled.of_asked asks).1] at again
        cases again

theorem Settled.substitutes (plain : images.Plain) (settled : images.Settled)
    (arguments : List Json) :
    images.Substitutes arguments (images.replaceArguments none arguments) where
  length := length_replaceArguments images none arguments
  only j changed := by
    cases due : images.askedAt (images.replaceArguments none arguments) j with
    | some image => exact Or.inr (by rw [settled.declared plain due, Option.isSome_some])
    | none =>
      rw [getElem?_replaceArguments plain, due] at changed
      cases found : arguments[j]? with
      | none =>
        rw [found] at changed
        exact absurd rfl changed
      | some written =>
        cases given : images.assigned written with
        | none =>
          rw [found, Option.map_some, rewritten_of_not_assigned given] at changed
          exact absurd rfl changed
        | some text => exact Or.inl (by rw [Option.bind_some, given, Option.isSome_some])
  next j image asks stands inside := by
    obtain ⟨flag, -, asked⟩ := Option.bind_eq_some_iff.1 asks
    have due : images.askedAt (images.replaceArguments none arguments) (j + 1) = some image := by
      rw [askedAt, stands, asks]
    rw [getElem?_replaceArguments plain, due, List.getElem?_eq_getElem inside, Option.map_some,
      rewritten_some, (settled.of_asked asked).2]
  own j text given silent := by
    obtain ⟨written, found, given⟩ := Option.bind_eq_some_iff.1 given
    have due : images.askedAt (images.replaceArguments none arguments) j = none := by
      cases due : images.askedAt (images.replaceArguments none arguments) j with
      | none => rfl
      | some image =>
        rw [settled.declared plain due] at silent
        cases silent
    rw [getElem?_replaceArguments plain, due, found, Option.map_some, rewritten_of_assigned given]

/-- A flag before two arguments that mean nothing shows whether its image is taken for a flag. -/
theorem settled_of_substitutes (plain : images.Plain)
    (always : ∀ flag, images.Substitutes [.str flag, .null, .null]
      (images.replaceArguments none [.str flag, .null, .null])) : images.Settled := by
  intro flag image whole found
  have substitutes := always flag
  have asks : images.asked (.str flag) = some image := (if_neg whole).trans found
  have stands : images.rewritten none (.str flag) = .str flag := by
    refine rewritten_of_not_assigned ?_
    cases cut : sides? flag with
    | none => rw [assigned, cut, Option.bind_none]
    | some sides => exact absurd (sides?_eq_some cut) whole
  have walked : images.replaceArguments none [.str flag, .null, .null] =
      [.str flag, images.rewritten none (.str image),
        images.rewritten (images.asked (images.rewritten none (.str image))) .null] := by
    rw [replaceArguments_cons plain, stands, asks, replaceArguments_cons plain, rewritten_some,
      replaceArguments_cons plain]
    rfl
  rw [walked] at substitutes
  have settles : images.rewritten none (.str image) = .str image :=
    Option.some.inj (substitutes.next 0 image asks rfl (by simp))
  refine ⟨?_, settles⟩
  cases again : images.asked (.str image) with
  | none => rfl
  | some image' =>
    obtain ⟨text, written⟩ := images.rewritten_str image'
    rw [settles, again, rewritten_some, written] at substitutes
    rcases substitutes.only 2 (by simp) with given | due
    · cases given
    · cases due

end ImageOverrides

/-! ## Deployments -/

/-- The arguments of a container of a deployment. -/
def Document.argumentsOf (d : Document) (i : Nat) : Option (List Json) :=
  ((d.value.at? ["spec", "template", "spec", "containers"]).bind Json.items?).bind fun containers =>
    (containers[i]?).bind fun container => (container.get? "args").bind Json.items?

namespace ImageOverrides

variable {images : ImageOverrides} {d d' : Document} {w w' : Json}

theorem args_replaceContainer (ok : images.replaceContainer w = .ok w') :
    (w'.get? "args").bind Json.items? =
      ((w.get? "args").bind Json.items?).map (images.replaceArguments none) := by
  rw [replaceContainer_eq] at ok
  obtain ⟨container, replaced, ok⟩ := bind_eq_ok ok
  rw [← get?_replaceImage_of_ne (by decide) replaced]
  rw [replaceArgumentsOf] at ok
  split at ok
  · rename_i arguments found
    cases container with
    | obj members =>
      cases ok
      rw [found, Json.get?, Table.get?_put_self]
      rfl
    | _ => cases found
  · rename_i other
    cases ok
    cases found : w'.get? "args" with
    | none => rfl
    | some v =>
      cases v with
      | arr arguments => exact absurd found (other arguments)
      | _ => rfl

/-- The arguments of every container are walked over from the first one on. -/
theorem argumentsOf_deploymentImages (deployment : d.kind = "Deployment")
    (ok : Transformer.deploymentImages images d = .ok (some d')) (i : Nat) :
    d'.argumentsOf i = (d.argumentsOf i).map (images.replaceArguments none) := by
  have turned := Transformer.containers_deploymentImages deployment ok
  change (d'.itemsAt? Document.containerPath).bind _ =
    Option.map _ ((d.itemsAt? Document.containerPath).bind _)
  rw [Document.ItemsTurn] at turned
  generalize d.itemsAt? Document.containerPath = before,
    d'.itemsAt? Document.containerPath = after at turned ⊢
  cases turned with
  | none => rfl
  | some replaced =>
    rw [Option.bind_some, Option.bind_some]
    rcases Json.Within.getElem?_of_forall₂ replaced i with
      ⟨none, none'⟩ | ⟨w, w', here, here', ok⟩
    · rw [none, none']
      rfl
    · rw [here, here']
      exact args_replaceContainer ok

/-- A deployment with one container, which has these arguments. -/
def deploymentWith (arguments : List Json) : Document :=
  ⟨.obj [("kind", .str "Deployment"), ("spec", .obj [("template", .obj [("spec",
    .obj [("containers", .arr [.obj [("args", .arr arguments)]])])])])]⟩

theorem exists_deploymentImages_deploymentWith (images : ImageOverrides) (arguments : List Json) :
    ∃ d', Transformer.deploymentImages images (deploymentWith arguments) = .ok (some d') := by
  refine (Transformer.turns_deploymentImages images).exists_of_crashesIff
    (Transformer.deploymentImages_crashesIff images _) ?_
  rintro ⟨⟨-, containers, found, container, mem, fieldless⟩, -⟩
  cases found
  cases List.mem_singleton.1 mem
  cases fieldless.1

/-- **Arguments are what the declared flags ask for, unless an image is a flag itself.** Each
argument of a container becomes what it is made of as the one before has left it. With images that
are settled this is what the declared flags ask for, for every deployment, and with any other images
there is a deployment for which it is not. -/
theorem arguments_substituted_iff_settled (plain : images.Plain) :
    (∀ (d d' : Document) (i : Nat) (arguments : List Json), d.kind = "Deployment" →
      Transformer.deploymentImages images d = .ok (some d') → d.argumentsOf i = some arguments →
      ∃ result, d'.argumentsOf i = some result ∧ result.length = arguments.length ∧
        (∀ j : Nat, result[j]? =
          (arguments[j]?).map (images.rewritten (images.askedAt result j))) ∧
        (images.Settled → images.Substitutes arguments result)) ∧
    (¬ images.Settled →
      ∃ (d d' : Document) (i : Nat) (arguments result : List Json), d.kind = "Deployment" ∧
        Transformer.deploymentImages images d = .ok (some d') ∧
        d.argumentsOf i = some arguments ∧ d'.argumentsOf i = some result ∧
        ¬ images.Substitutes arguments result) := by
  constructor
  · intro d d' i arguments deployment ok found
    have become := argumentsOf_deploymentImages deployment ok i
    rw [found] at become
    exact ⟨_, become, length_replaceArguments images none arguments,
      getElem?_replaceArguments plain arguments, fun settled => settled.substitutes plain arguments⟩
  · intro unsettled
    by_contra none
    refine unsettled (settled_of_substitutes plain fun flag => ?_)
    by_contra differs
    obtain ⟨d', ok⟩ := exists_deploymentImages_deploymentWith images [.str flag, .null, .null]
    exact none ⟨_, d', 0, _, _, rfl, ok, rfl, argumentsOf_deploymentImages rfl ok 0, differs⟩

/-- The image of one flag. -/
def shellImage : ImageOverrides := [("arg__shell_image", "shell:2")]

/-- A deployment in which a flag comes with its value both ways. -/
def shell : Document :=
  deploymentWith [.str "-shell-image=busybox", .str "-shell-image", .str "busybox"]

/-- The image of this flag is no flag, so it goes where the flag asks for it. -/
theorem arguments_substituted_shell :
    shellImage.Plain ∧ shell.kind = "Deployment" ∧
      ∃ d', Transformer.deploymentImages shellImage shell = .ok (some d') ∧
        shell.argumentsOf 0 =
          some [.str "-shell-image=busybox", .str "-shell-image", .str "busybox"] ∧
        d'.argumentsOf 0 =
          some [.str "-shell-image=shell:2", .str "-shell-image", .str "shell:2"] ∧
        shellImage.Substitutes
          [.str "-shell-image=busybox", .str "-shell-image", .str "busybox"]
          [.str "-shell-image=shell:2", .str "-shell-image", .str "shell:2"] := by
  have plain : shellImage.Plain := by decide
  have settled : shellImage.Settled := by
    intro flag image _ found
    have only : image = "shell:2" := by
      rw [ofFlag, shellImage, Table.get?] at found
      split at found
      · exact (Option.some.inj found).symm
      · cases found
    subst only
    exact ⟨rfl, rfl⟩
  have deployment : shell.kind = "Deployment" := rfl
  have ok : Transformer.deploymentImages shellImage shell = .ok (some _) := rfl
  obtain ⟨result, become, -, -, substitutes⟩ :=
    (arguments_substituted_iff_settled plain).1 shell _ 0 _ deployment ok rfl
  cases become
  exact ⟨plain, deployment, _, ok, rfl, rfl, substitutes settled⟩

/-- Images of two flags. The image of the first one reads like the second flag. -/
def chainedImages : ImageOverrides :=
  [("arg__shell_image", "busybox"), ("arg_busybox", "mirror/busybox:1")]

/-- The image of the first flag is taken for the second one, and what stands behind it is replaced
though nothing asked for it. -/
theorem not_arguments_substituted :
    chainedImages.Plain ∧
      ∃ d', Transformer.deploymentImages chainedImages
          (deploymentWith [.str "-shell-image", .str "bash", .str "serve"]) = .ok (some d') ∧
        d'.argumentsOf 0 =
          some [.str "-shell-image", .str "busybox", .str "mirror/busybox:1"] ∧
        ¬ chainedImages.Substitutes [.str "-shell-image", .str "bash", .str "serve"]
          [.str "-shell-image", .str "busybox", .str "mirror/busybox:1"] := by
  refine ⟨by decide, _, rfl, rfl, fun substitutes => ?_⟩
  rcases substitutes.only 2 (by simp) with given | due
  · cases given
  · cases due

end ImageOverrides

end PhasedInstall
