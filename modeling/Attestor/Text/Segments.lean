namespace Attestor.Text

def segments (separator : Char) : List Char → List (List Char)
  | [] => [[]]
  | c :: rest =>
    if c = separator then [] :: segments separator rest
    else match segments separator rest with
      | [] => [[c]]
      | piece :: pieces => (c :: piece) :: pieces

def cut (separator : Char) : List Char → List Char × Option (List Char)
  | [] => ([], none)
  | c :: rest =>
    if c = separator then ([], some rest)
    else
      let (before, after) := cut separator rest
      (c :: before, after)

def trimEnd (trailing : Char) : List Char → List Char
  | [] => []
  | c :: rest =>
    match trimEnd trailing rest with
    | [] => if c = trailing then [] else [c]
    | kept => c :: kept

def trimSlashes (url : String) : String :=
  String.ofList (trimEnd '/' url.toList)

end Attestor.Text
