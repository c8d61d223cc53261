import PathQuery.Unicode.Lookup

/-! # Contributory properties

Properties that only help to define others.  Most of them are what such a property has
beyond the general categories that it is built on; the rest are short tables. -/
namespace PathQuery.Unicode

open Text

/-- The characters that have the property `name` but none of some categories. -/
def beyond (name : String) (categories : List String) : CharSet :=
  (propertyChars name).diff (categoryChars categories)

/-- Contributory properties with tables. -/
def contributory : List Class := [
  ⟨["odi", "otherdefaultignorablecodepoint"],
    ["34f 115f-1160 17b4-17b5 2065 3164 ffa0 fff0-fff8 e0000 e0002-e001f e0080-e00ff",
      "e01f0-e0fff"]⟩,
  ⟨["hyphen"], ["2d ad 58a 1806 2010-2011 2e17 30fb fe63 ff0d ff65"]⟩,
  ⟨["pcm", "prependedconcatenationmark"], ["600-605 6dd 70f 890-891 8e2 110bd 110cd"]⟩,
  ⟨["idsu", "idsunaryoperator"], ["2ffe-2fff"]⟩,
  ⟨["idcompatmathstart"],
    ["2202 2207 221e 1d6c1 1d6db 1d6fb 1d715 1d735 1d74f 1d76f 1d789 1d7a9 1d7c3"]⟩,
  ⟨["idcompatmathcontinue"],
    ["b2-b3 b9 2070 2074-207e 2080-208e 2202 2207 221e 1d6c1 1d6db 1d6fb 1d715 1d735 1d74f",
      "1d76f 1d789 1d7a9 1d7c3"]⟩,
  ⟨["mcm", "modifiercombiningmark"],
    ["654-655 658 6dc 6e3 6e7-6e8 8ca-8cb 8cd-8cf 8d3 8f3"]⟩,
  ⟨["grlink", "graphemelink"],
    ["94d 9cd a4d acd b4d bcd c4d ccd d3b-d3c d4d dca e3a eba f84 1039-103a 1714-1715 1734",
      "17d2 1a60 1b44 1baa-1bab 1bf2-1bf3 2d7f a806 a82c a8c4 a953 a9c0 aaf6 abed 10a3f 11046",
      "11070 1107f 110b9 11133-11134 111c0 11235 112ea 1134d 113ce-113d0 11442 114c2 115bf",
      "1163f 116b6 1172b 11839 1193d-1193e 119e0 11a34 11a47 11a99 11c3f 11d44-11d45 11d97",
      "11f41-11f42 1612f"]⟩]

/-- The characters that have the contributory property with the given normal name. -/
def contributory? (name : String) : Option CharSet :=
  if name = "oalpha" ∨ name = "otheralphabetic" then some (beyond "alphabetic" ["l", "nl"])
  else if name = "olower" ∨ name = "otherlowercase" then some (beyond "lowercase" ["ll"])
  else if name = "oupper" ∨ name = "otheruppercase" then some (beyond "uppercase" ["lu"])
  else if name = "omath" ∨ name = "othermath" then some (beyond "math" ["sm"])
  else if name = "ogrext" ∨ name = "othergraphemeextend" then
    some (beyond "graphemeextend" ["mn", "me"])
  else if name = "oids" ∨ name = "otheridstart" then some (beyond "idstart" ["l", "nl"])
  else if name = "oidc" ∨ name = "otheridcontinue" then
    some ((beyond "idcontinue" ["mn", "mc", "nd", "pc"]).diff (propertyChars "idstart"))
  else Class.find? contributory name

end PathQuery.Unicode
