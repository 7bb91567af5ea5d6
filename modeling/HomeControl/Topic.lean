/-!
# Topics

A queue lives on the topic that is made of a common base, a slash and its name.
-/

namespace HomeControl

def topic (base queue : String) : String := base ++ "/" ++ queue

/-- The queue that lives on a topic, if its base is the given one. -/
def queueOn? (base topic : String) : Option String :=
  match base.toList.isPrefixOf? topic.toList with
  | some ('/' :: queue) =>
    if queue.isEmpty || queue.contains '/' then none else some (String.ofList queue)
  | _ => none

end HomeControl
