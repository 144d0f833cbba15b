import GemSurvey.Fault
import GemSurvey.Proofs.Text.Cutting

/-! Contexts added to a fault, one after another. The fault stays the same but for them. A fault of the
system and a plain one tell each of them, the last added first; any other fault tells none. -/
namespace GemSurvey.Fault

def withContexts (fault : Fault) (contexts : List Text) : Fault :=
  contexts.foldl (fun fault context => fault.withContext context) fault

def bare : Fault → Fault
  | io cause _ => io cause none
  | plain text _ help => plain text none help
  | fault => fault

def tellsContext : Fault → Bool
  | io _ _ | plain _ _ _ => true
  | settings _ | git _ | invariant _ => false

def opening : Fault → List Text
  | plain text _ _ => [text]
  | _ => []

def closing : Fault → List Text
  | io cause context => context.toList ++ ["I/O error: " ++ cause.message]
  | plain _ context _ => context.toList
  | fault => [fault.message]

structure Contextual (fault : Fault) (contexts : List Text) : Prop where
  bare : (fault.withContexts contexts).bare = fault.bare
  exitCode : (fault.withContexts contexts).exitCode = fault.exitCode
  help : (fault.withContexts contexts).help? = fault.help?
  source : (fault.withContexts contexts).source? = fault.source?
  message : fault.message = Text.join "\n" (fault.opening ++ fault.closing)
  told : fault.tellsContext = true → (fault.withContexts contexts).message =
    Text.join "\n" (fault.opening ++ contexts.reverse ++ fault.closing)
  untold : fault.tellsContext = false → fault.withContexts contexts = fault

theorem bareContext (fault : Fault) (context : Text) : (fault.withContext context).bare = fault.bare := by
  cases fault <;> rfl

theorem bareContexts (fault : Fault) (contexts : List Text) :
    (fault.withContexts contexts).bare = fault.bare := by
  induction contexts generalizing fault with
  | nil => rfl
  | cons context rest ih => exact (ih _).trans (bareContext fault context)

theorem bareKept {α : Type} {f : Fault → α} (blind : ∀ fault, f fault.bare = f fault)
    (fault : Fault) (contexts : List Text) : f (fault.withContexts contexts) = f fault := by
  rw [← blind, bareContexts, blind]

theorem exitCodeBare (fault : Fault) : fault.bare.exitCode = fault.exitCode := by
  cases fault <;> rfl

theorem helpBare (fault : Fault) : fault.bare.help? = fault.help? := by
  cases fault <;> rfl

theorem sourceBare (fault : Fault) : fault.bare.source? = fault.source? := by
  cases fault <;> rfl

theorem untoldContexts {fault : Fault} (silent : fault.tellsContext = false) (contexts : List Text) :
    fault.withContexts contexts = fault := by
  have step (context : Text) : fault.withContext context = fault := by
    cases fault with
    | io | plain => cases silent
    | _ => rfl
  induction contexts with
  | nil => rfl
  | cons context rest ih => rw [withContexts, List.foldl_cons, step]; exact ih

theorem joinMerged (mark first second : Text) (before after : List Text) :
    Text.join mark (before ++ (first ++ mark ++ second) :: after) =
      Text.join mark (before ++ first :: second :: after) := by
  induction before with
  | nil => cases after with
    | nil => simp [Text.joinOne, Text.joinCons]
    | cons third after => simp [Text.joinCons]
  | cons part before ih =>
    rw [List.cons_append, List.cons_append, Text.joinPart (by simp),
      Text.joinPart (by simp), ih]

theorem joinOuter (context : Text) (inner : Option Text) (before after : List Text) :
    Text.join "\n" (before ++ outer context inner :: after) =
      Text.join "\n" (before ++ context :: (inner.toList ++ after)) := by
  cases inner with
  | none => rfl
  | some inner => exact joinMerged "\n" context inner before after

def gathered (inner : Option Text) (contexts : List Text) : Option Text :=
  contexts.foldl (fun inner context => some (outer context inner)) inner

theorem joinGathered (inner : Option Text) (contexts before after : List Text) :
    Text.join "\n" (before ++ ((gathered inner contexts).toList ++ after)) =
      Text.join "\n" (before ++ contexts.reverse ++ (inner.toList ++ after)) := by
  induction contexts generalizing inner with
  | nil => simp [gathered]
  | cons context rest ih =>
    have last := joinOuter context inner (before ++ rest.reverse) after
    rw [show gathered inner (context :: rest) = gathered (some (outer context inner)) rest from rfl]
    simpa using (ih (some (outer context inner))).trans last

theorem ioContexts (cause : IoFault) (inner : Option Text) (contexts : List Text) :
    (io cause inner).withContexts contexts = io cause (gathered inner contexts) := by
  induction contexts generalizing inner with
  | nil => rfl
  | cons context rest ih => exact ih _

theorem plainContexts (text : Text) (inner help : Option Text) (contexts : List Text) :
    (plain text inner help).withContexts contexts = plain text (gathered inner contexts) help := by
  induction contexts generalizing inner with
  | nil => rfl
  | cons context rest ih => exact ih _

theorem joinTwo (mark first second : Text) : Text.join mark [first, second] = first ++ mark ++ second := by
  rw [Text.joinCons, Text.joinOne, List.append_assoc]

theorem messageParts (fault : Fault) :
    fault.message = Text.join "\n" (fault.opening ++ fault.closing) := by
  cases fault with
  | settings | git | invariant => exact (Text.joinOne _ _).symm
  | io cause inner => cases inner with
    | none => exact (Text.joinOne _ _).symm
    | some context =>
      have mark : "\nI/O error: ".toList = "\n".toList ++ "I/O error: ".toList := by decide +kernel
      calc (io cause (some context)).message
          = context ++ ("\n".toList ++ "I/O error: ".toList) ++ cause.message :=
            congrArg (fun mark => context ++ mark ++ cause.message) mark
        _ = context ++ "\n".toList ++ ("I/O error: ".toList ++ cause.message) := by
            simp only [List.append_assoc]
        _ = Text.join "\n" [context, "I/O error: " ++ cause.message] := (joinTwo _ _ _).symm
  | plain text inner help => cases inner with
    | none => exact (Text.joinOne _ _).symm
    | some context => exact (joinTwo "\n" text context).symm

theorem toldContexts {fault : Fault} (tells : fault.tellsContext = true) (contexts : List Text) :
    (fault.withContexts contexts).message =
      Text.join "\n" (fault.opening ++ contexts.reverse ++ fault.closing) := by
  cases fault with
  | io cause inner =>
    rw [ioContexts, messageParts]
    exact joinGathered inner contexts [] _
  | plain text inner help =>
    rw [plainContexts, messageParts]
    simpa [opening, closing] using joinGathered inner contexts [text] []
  | _ => cases tells

theorem contextsTold (fault : Fault) (contexts : List Text) : Contextual fault contexts where
  bare := bareContexts fault contexts
  exitCode := bareKept exitCodeBare fault contexts
  help := bareKept helpBare fault contexts
  source := bareKept sourceBare fault contexts
  message := messageParts fault
  told tells := toldContexts tells contexts
  untold silent := untoldContexts silent contexts

theorem contextLost : ¬ ∀ (fault : Fault) (contexts : List Text), ∀ context ∈ contexts,
    context <:+: (fault.withContexts contexts).message := by
  intro told
  have lost := told (.settings (.invalidValue "scan.source_suffixes"
    "at least one file extension is required")) ["Invalid scan configuration in gemsmith.toml"] _
    List.mem_cons_self
  exact absurd lost (by decide +kernel)

end GemSurvey.Fault
