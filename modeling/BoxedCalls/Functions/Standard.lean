import BoxedCalls.Functions.Host

namespace BoxedCalls

def standardFunctions : List (String × Signature) := [
    ("array_keys", .byValue 1 3),
    ("array_pop", ⟨1, [.byReference]⟩),
    ("array_push", ⟨2, [.byReference, .byValue]⟩),
    ("array_shift", ⟨1, [.byReference]⟩),
    ("count", .byValue 1 2),
    ("end", ⟨1, [.byReference]⟩),
    ("explode", .byValue 2 3),
    ("implode", .byValue 1 2),
    ("in_array", .byValue 2 3),
    ("is_array", .byValue 1 1),
    ("is_null", .byValue 1 1),
    ("is_string", .byValue 1 1),
    ("json_decode", .byValue 1 4),
    ("json_encode", .byValue 1 2),
    ("ksort", ⟨1, [.byReference, .byValue]⟩),
    ("microtime", .byValue 0 1),
    ("preg_match", ⟨2, [.byValue, .byValue, .byReference, .byValue, .byValue]⟩),
    ("preg_match_all", ⟨2, [.byValue, .byValue, .byReference, .byValue, .byValue]⟩),
    ("preg_replace", ⟨3, [.byValue, .byValue, .byValue, .byValue, .byReference]⟩),
    ("reset", ⟨1, [.byReference]⟩),
    ("sort", ⟨1, [.byReference, .byValue]⟩),
    ("str_repeat", .byValue 2 2),
    ("str_replace", ⟨3, [.byValue, .byValue, .byValue, .byReference]⟩),
    ("strlen", .byValue 1 1),
    ("strpos", .byValue 2 3),
    ("strtolower", .byValue 1 1),
    ("strtoupper", .byValue 1 1),
    ("substr", .byValue 2 3),
    ("time", .byValue 0 0),
    ("trim", .byValue 1 2),
    ("ucfirst", .byValue 1 1)]

def HostFunctions.standard : HostFunctions :=
  standardFunctions.foldl (fun host entry => host.register entry.1 (some entry.2)) {}

end BoxedCalls
