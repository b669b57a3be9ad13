import CompletionGateway.Pipeline.Program

/-! The turns that are sent with a prompt: the latest turns on record, the prompt itself, and in front of them
what an injector adds. -/
namespace CompletionGateway

/-- What adds to the turns before they are sent. Any function of the turns may do so. -/
structure Injector where
  name : String
  inject : List Turn → List Turn

namespace Injector

/-- Nothing is added. -/
def none : Injector := ⟨"noop", id⟩

/-- A system prompt is put in front of turns that do not begin with one. -/
def systemPrompt (text : String) : Injector where
  name := "system_prompt"
  inject
    | ⟨.system, first⟩ :: turns => ⟨.system, first⟩ :: turns
    | turns => ⟨.system, text⟩ :: turns

end Injector

namespace Context

/-- The turns kept unless another limit is set. -/
def defaultLimit : Nat := 20

/-- The last `limit` turns on record and the prompt. -/
def historyOf (limit : Nat) (messages : List Message) (prompt : String) : List Turn :=
  (messages.drop (messages.length - limit)).map Message.turn ++ [⟨.user, prompt⟩]

/-- The turns of a conversation with a prompt at their end. -/
def history (limit : Nat) (id : ConversationId) (prompt : String) : Program (Except StoreError (List Turn)) :=
  Program.bind (Program.perform (.listMessages id)) fun
    | .ok messages => .done (.ok (historyOf limit messages prompt))
    | .error e => .done (.error e)

/-- The turns of a conversation behind what the injector adds. -/
def build (injector : Injector) (limit : Nat) (id : ConversationId) (prompt : String) :
    Program (Except StoreError (List Turn)) :=
  Program.bind (history limit id prompt) fun
    | .ok turns => .done (.ok (injector.inject turns))
    | .error e => .done (.error e)

end Context
end CompletionGateway
