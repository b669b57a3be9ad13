import CompletionGateway.Failure

/-! The check of a prompt. Its length counts Unicode characters. -/
namespace CompletionGateway.Prompt

def missing : PipelineError := .invalidRequest "prompt is required"

def tooLong (most : Nat) : PipelineError :=
  .invalidRequest ("prompt exceeds maximum length of " ++ toString most ++ " characters")

/-- A prompt has at least one character and at most so many. -/
def check (most : Nat) (prompt : String) : Except PipelineError Unit :=
  if prompt.isEmpty then .error missing
  else if most < prompt.length then .error (tooLong most)
  else .ok ()

end CompletionGateway.Prompt
