/-!
# Collection methods

The methods of collections that are known, and those among them that, always or with certain arguments,
return something other than a collection.
-/

namespace ChainLint.Methods

/-- The methods that never return a collection. -/
def neverCollection : List String :=
  ["get", "hasClass", "index", "is", "position", "promise", "serialize", "serializeArray",
    "toArray", "triggerHandler"]

/-- The methods that read a value when they are called without arguments. -/
def accessors : List String :=
  ["height", "html", "innerHeight", "innerWidth", "offset", "scrollLeft", "scrollTop", "text",
    "val", "width"]

/-- The methods that read a value when they are called without arguments or with a single key. -/
def valueAccessors : List String :=
  ["attr", "css", "data", "prop"]

/-- The methods that read a size, possibly with a flag as their argument. -/
def sizing : List String := ["outerWidth", "outerHeight"]

/-- The method that reads a queue when it is called without arguments or with the name of one. -/
def queue : String := "queue"

def known : List String :=
  ["add", "addBack", "addClass", "after", "ajaxComplete", "ajaxError", "ajaxSend", "ajaxStart",
    "ajaxStop", "ajaxSuccess", "andSelf", "animate", "append", "appendTo", "attr", "before",
    "bind", "blur", "change", "children", "clearQueue", "click", "clone", "closest", "contents",
    "contextmenu", "css", "data", "dblclick", "delay", "delegate", "dequeue", "detach", "die",
    "each", "empty", "end", "eq", "error", "even", "fadeIn", "fadeOut", "fadeTo", "fadeToggle",
    "filter", "find", "finish", "first", "focus", "focusin", "focusout", "get", "has", "hasClass",
    "height", "hide", "hover", "html", "index", "innerHeight", "innerWidth", "insertAfter",
    "insertBefore", "is", "keydown", "keypress", "keyup", "last", "live", "load", "map",
    "mousedown", "mouseenter", "mouseleave", "mousemove", "mouseout", "mouseover", "mouseup",
    "next", "nextAll", "nextUntil", "not", "odd", "off", "offset", "offsetParent", "on", "one",
    "outerHeight", "outerWidth", "parent", "parents", "parentsUntil", "position", "prepend",
    "prependTo", "prev", "prevAll", "prevUntil", "promise", "prop", "pushStack", "queue", "ready",
    "remove", "removeAttr", "removeClass", "removeData", "removeProp", "replaceAll", "replaceWith",
    "resize", "scroll", "scrollLeft", "scrollTop", "select", "serialize", "serializeArray", "show",
    "siblings", "size", "slice", "slideDown", "slideToggle", "slideUp", "stop", "submit", "text",
    "toArray", "toggle", "toggleClass", "trigger", "triggerHandler", "unbind", "undelegate",
    "unload", "unwrap", "val", "width", "wrap", "wrapAll", "wrapInner"]

end ChainLint.Methods
