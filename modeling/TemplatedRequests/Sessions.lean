import TemplatedRequests.OrderedMap

/-!
Values captured in each session. A session begins with its first record, even of nothing, and
ends when it is cleared.
-/

namespace TemplatedRequests

structure Sessions where
  captured : OrderedMap Bindings := ∅

namespace Sessions

def get (s : Sessions) (session : String) : Bindings := (s.captured.get? session).getD ∅

/-- Later values of a name replace earlier ones. -/
def record (s : Sessions) (session : String) (values : Bindings) : Sessions :=
  ⟨s.captured.insert session ((s.get session).update values)⟩

def has (s : Sessions) (session : String) : Bool := s.captured.contains session

def clear (s : Sessions) (session : String) : Sessions := ⟨s.captured.erase session⟩

def list (s : Sessions) : List String := s.captured.names

@[simp] theorem get_record_self (s : Sessions) (session : String) (values : Bindings) :
    (s.record session values).get session = (s.get session).update values := by
  simp [get, record]

theorem get_record_of_ne (s : Sessions) {session other : String} (values : Bindings)
    (h : other ≠ session) : (s.record session values).get other = s.get other := by
  simp [get, record, h]

@[simp] theorem get_clear_self (s : Sessions) (session : String) : (s.clear session).get session = ∅ := by
  simp [get, clear]

theorem get_clear_of_ne (s : Sessions) {session other : String} (h : other ≠ session) :
    (s.clear session).get other = s.get other := by
  simp [get, clear, h]

end Sessions

end TemplatedRequests
