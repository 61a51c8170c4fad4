import AlertRange.Value

namespace AlertRange

structure Failure where
  code : String
  message : String
  detail : Value.Fields

structure Report where
  ok : Bool
  op : String
  data : Value.Fields
  warnings : List String
  failure : Option Failure

namespace Report

def success (op : String) (data : Value.Fields) (warnings : List String) : Report :=
  ⟨true, op, data, warnings, none⟩

def failed (op : String) (failure : Failure) : Report :=
  ⟨false, op, [], [], some failure⟩

end Report

end AlertRange
