/-!
# The client script

The script that runs in the browser and binds a text field to the address of its suggestions.
-/

namespace WebMount.Suggest

/-- The lines of the client script. -/
def clientScriptLines : List String :=
  ["/*",
   " * Autocomplete for text fields.",
   " *",
   " * new WicketAutoComplete(elementId, callbackUrl) attaches a suggestion list",
   " * to the input with the given id. Suggestions are fetched from",
   " * callbackUrl?q=<input> and returned as <ul><li textvalue=\"...\">...</li></ul>.",
   " */",
   "function WicketAutoComplete(elementId, callbackUrl) \x7b",
   "\tvar KEY_TAB = 9, KEY_ENTER = 13, KEY_ESC = 27, KEY_UP = 38, KEY_DOWN = 40;",
   "",
   "\tvar input = document.getElementById(elementId);",
   "\tif (!input) \x7b",
   "\t\treturn;",
   "\t\x7d",
   "\tinput.setAttribute(\"autocomplete\", \"off\");",
   "",
   "\tvar selected = -1;",
   "\tvar items = [];",
   "\tvar pending = null;",
   "",
   "\tvar container = document.createElement(\"div\");",
   "\tcontainer.className = \"wicket-aa\";",
   "\tcontainer.style.position = \"absolute\";",
   "\tcontainer.style.display = \"none\";",
   "\tcontainer.style.zIndex = \"10000\";",
   "\tdocument.body.appendChild(container);",
   "",
   "\tfunction position() \x7b",
   "\t\tvar rect = input.getBoundingClientRect();",
   "\t\tcontainer.style.left = (rect.left + window.pageXOffset) + \"px\";",
   "\t\tcontainer.style.top = (rect.bottom + window.pageYOffset) + \"px\";",
   "\t\tcontainer.style.minWidth = rect.width + \"px\";",
   "\t\x7d",
   "",
   "\tfunction hide() \x7b",
   "\t\tcontainer.style.display = \"none\";",
   "\t\tselected = -1;",
   "\t\x7d",
   "",
   "\tfunction highlight(index) \x7b",
   "\t\tfor (var i = 0; i < items.length; i++) \x7b",
   "\t\t\titems[i].className = (i === index) ? \"selected\" : \"\";",
   "\t\t\x7d",
   "\t\tselected = index;",
   "\t\x7d",
   "",
   "\tfunction choose(index) \x7b",
   "\t\tif (index < 0 || index >= items.length) \x7b",
   "\t\t\treturn;",
   "\t\t\x7d",
   "\t\tinput.value = items[index].getAttribute(\"textvalue\");",
   "\t\thide();",
   "\t\x7d",
   "",
   "\tfunction render(markup) \x7b",
   "\t\tcontainer.innerHTML = markup;",
   "\t\tvar list = container.getElementsByTagName(\"li\");",
   "\t\titems = [];",
   "\t\tfor (var i = 0; i < list.length; i++) \x7b",
   "\t\t\t(function (index, item) \x7b",
   "\t\t\t\titem.onmouseover = function () \x7b highlight(index); \x7d;",
   "\t\t\t\titem.onmousedown = function (event) \x7b",
   "\t\t\t\t\tevent.preventDefault();",
   "\t\t\t\t\tchoose(index);",
   "\t\t\t\t\x7d;",
   "\t\t\t\titems.push(item);",
   "\t\t\t\x7d)(i, list[i]);",
   "\t\t\x7d",
   "\t\tif (items.length === 0) \x7b",
   "\t\t\thide();",
   "\t\t\treturn;",
   "\t\t\x7d",
   "\t\tposition();",
   "\t\tcontainer.style.display = \"block\";",
   "\t\thighlight(-1);",
   "\t\x7d",
   "",
   "\tfunction request() \x7b",
   "\t\tif (pending) \x7b",
   "\t\t\tpending.abort();",
   "\t\t\x7d",
   "\t\tvar separator = callbackUrl.indexOf(\"?\") < 0 ? \"?\" : \"&\";",
   "\t\tvar xhr = new XMLHttpRequest();",
   "\t\txhr.open(\"GET\", callbackUrl + separator + \"q=\" + encodeURIComponent(input.value), true);",
   "\t\txhr.onreadystatechange = function () \x7b",
   "\t\t\tif (xhr.readyState !== 4) \x7b",
   "\t\t\t\treturn;",
   "\t\t\t\x7d",
   "\t\t\tpending = null;",
   "\t\t\tif (xhr.status === 200) \x7b",
   "\t\t\t\trender(xhr.responseText);",
   "\t\t\t\x7d",
   "\t\t\x7d;",
   "\t\tpending = xhr;",
   "\t\txhr.send(null);",
   "\t\x7d",
   "",
   "\tinput.onkeydown = function (event) \x7b",
   "\t\tswitch (event.keyCode) \x7b",
   "\t\t\tcase KEY_UP:",
   "\t\t\t\tif (items.length > 0) \x7b",
   "\t\t\t\t\thighlight(selected <= 0 ? items.length - 1 : selected - 1);",
   "\t\t\t\t\x7d",
   "\t\t\t\treturn false;",
   "\t\t\tcase KEY_DOWN:",
   "\t\t\t\tif (items.length > 0) \x7b",
   "\t\t\t\t\thighlight(selected >= items.length - 1 ? 0 : selected + 1);",
   "\t\t\t\t\x7d",
   "\t\t\t\treturn false;",
   "\t\t\tcase KEY_ENTER:",
   "\t\t\t\tif (selected >= 0) \x7b",
   "\t\t\t\t\tchoose(selected);",
   "\t\t\t\t\treturn false;",
   "\t\t\t\t\x7d",
   "\t\t\t\treturn true;",
   "\t\t\tcase KEY_ESC:",
   "\t\t\tcase KEY_TAB:",
   "\t\t\t\thide();",
   "\t\t\t\treturn true;",
   "\t\t\x7d",
   "\t\treturn true;",
   "\t\x7d;",
   "",
   "\tinput.onkeyup = function (event) \x7b",
   "\t\tswitch (event.keyCode) \x7b",
   "\t\t\tcase KEY_UP:",
   "\t\t\tcase KEY_DOWN:",
   "\t\t\tcase KEY_ENTER:",
   "\t\t\tcase KEY_ESC:",
   "\t\t\tcase KEY_TAB:",
   "\t\t\t\treturn;",
   "\t\t\x7d",
   "\t\trequest();",
   "\t\x7d;",
   "",
   "\tinput.onblur = hide;",
   "\x7d"]

/-- The text of the client script. -/
def clientScript : String :=
  String.join (clientScriptLines.map (· ++ "\n"))

end WebMount.Suggest
